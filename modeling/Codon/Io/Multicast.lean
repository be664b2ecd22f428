import Codon.Io.UdpCalls
import Mathlib.Data.List.Nodup

/-!
# The record of multicast subscriptions

A connection records the groups it joins, and joins them again on every new socket. A join is
recorded before the kernel has accepted it and a leave before it has taken it back, and nothing
undoes the record where the kernel refuses. A second record of one subscription makes every later
`open_socket` fail (`open_socket_fails_of_duplicate`). `subscribed_as_recorded` says what keeps the
record true.
-/

namespace Codon.Io

/-! ## Subscribing a new socket -/

namespace Socket

variable {socket socket' : Socket} {s : Subscription} {subscriptions : List Subscription}
  {accepts : Subscription → Bool}

/-- A socket joins a group exactly when the kernel accepts a membership it does not have yet. -/
theorem subscribe_eq_some_iff {accepted : Bool} :
    socket.subscribe s accepted = some socket' ↔
      accepted = true ∧ s ∉ socket.memberships ∧
        { socket with memberships := socket.memberships ++ [s] } = socket' := by
  unfold subscribe
  split_ifs with h
  · simp [h]
  · simp only [false_iff]
    exact fun ⟨haccepted, hnew, _⟩ => h ⟨haccepted, hnew⟩

/-- Joining a list of groups is joining the first and then the rest, all accepted. -/
theorem subscribe_all_cons_eq_some_iff :
    subscribeAll accepts socket (s :: subscriptions) = some socket' ↔
      ∃ joined, socket.subscribe s (accepts s) = some joined ∧
        subscribeAll accepts joined subscriptions = some socket' := by
  rw [subscribeAll]
  cases socket.subscribe s (accepts s) <;> simp

/-- The memberships are those recorded, which are all different. -/
theorem subscribe_all_memberships (h : subscribeAll accepts socket subscriptions = some socket')
    (hsocket : socket.memberships.Nodup) :
    socket'.memberships = socket.memberships ++ subscriptions ∧
      (socket.memberships ++ subscriptions).Nodup := by
  induction subscriptions generalizing socket with
  | nil =>
      cases h
      simpa using hsocket
  | cons s subscriptions ih =>
      obtain ⟨joined, hjoin, hrest⟩ := subscribe_all_cons_eq_some_iff.1 h
      obtain ⟨-, hnew, rfl⟩ := subscribe_eq_some_iff.1 hjoin
      have hjoined : (socket.memberships ++ [s]).Nodup :=
        hsocket.append (List.nodup_singleton s) (List.disjoint_singleton.2 hnew)
      simpa using ih hrest hjoined

/-- Where the kernel refuses nothing else, all that is recorded once can be joined. -/
theorem subscribe_all_isSome (haccepts : ∀ s ∈ subscriptions, accepts s = true)
    (h : (socket.memberships ++ subscriptions).Nodup) :
    (subscribeAll accepts socket subscriptions).isSome = true := by
  induction subscriptions generalizing socket with
  | nil => rfl
  | cons s subscriptions ih =>
      have hnew : s ∉ socket.memberships := fun hs =>
        (List.nodup_append.1 h).2.2 s hs s List.mem_cons_self rfl
      have hjoin : socket.subscribe s (accepts s) =
          some { socket with memberships := socket.memberships ++ [s] } :=
        subscribe_eq_some_iff.2 ⟨haccepts s List.mem_cons_self, hnew, rfl⟩
      rw [subscribeAll, hjoin]
      refine ih (fun s hs => haccepts s (List.mem_cons_of_mem _ hs)) ?_
      simpa using h

end Socket

namespace UdpConnection

variable {u : UdpConnection}

/-- Once a subscription is recorded twice, no socket can be opened any more. -/
theorem open_socket_fails_of_duplicate (h : ¬u.multicastSubscriptions.Nodup) (s : SocketSetup) :
    (u.openSocket s).1 = false := by
  obtain ⟨_, _, heq⟩ | ⟨_, _, _, -, hsubs, -⟩ := u.open_socket_cases s
  · rw [heq]
  · exact absurd (Socket.subscribe_all_memberships hsubs List.nodup_nil).2 h

/-! ## The condition -/

/-- A join of what is not recorded yet, which the kernel accepts on an open socket; or one that
fails before it is recorded. -/
def RecordsJoin (u : UdpConnection) (group : Option Nat) (interface : Nat) (accepted : Bool) :
    Prop :=
  u.isIpv6 = false → ∀ g ∈ group, ⟨g, interface⟩ ∉ u.multicastSubscriptions ∧
    (u.isConnected = true → accepted = true)

/-- A leave that the kernel takes back, where there is something to leave. -/
def RecordsLeave (u : UdpConnection) (group : Option Nat) (interface : Nat) (removed : Bool) :
    Prop :=
  u.isIpv6 = false → ∀ g ∈ group, u.isConnected = true →
    ⟨g, interface⟩ ∈ u.multicastSubscriptions → removed = true

instance (u : UdpConnection) (group : Option Nat) (interface : Nat) (accepted : Bool) :
    Decidable (u.RecordsJoin group interface accepted) :=
  inferInstanceAs (Decidable (_ → ∀ g ∈ group, _ ∧ (_ → _)))

instance (u : UdpConnection) (group : Option Nat) (interface : Nat) (removed : Bool) :
    Decidable (u.RecordsLeave group interface removed) :=
  inferInstanceAs (Decidable (_ → ∀ g ∈ group, _ → _ → _))

/-- All joins are such. -/
def RecordsJoins (group : Option Nat) : UdpConnection → List (Nat × Bool) → Prop
  | _, [] => True
  | u, (interface, accepted) :: interfaces =>
      u.RecordsJoin group interface accepted ∧
        RecordsJoins group (u.multicastGroupJoin group interface accepted).2 interfaces

/-- All leaves are such, until one fails. -/
def RecordsLeaves (group : Option Nat) : UdpConnection → List (Nat × Bool) → Prop
  | _, [] => True
  | u, (interface, removed) :: interfaces =>
      u.RecordsLeave group interface removed ∧
        ((u.multicastGroupLeave group interface removed).1 = true →
          RecordsLeaves group (u.multicastGroupLeave group interface removed).2 interfaces)

instance decidableRecordsJoins (group : Option Nat) :
    (u : UdpConnection) → (interfaces : List (Nat × Bool)) →
      Decidable (RecordsJoins group u interfaces)
  | _, [] => inferInstanceAs (Decidable True)
  | u, (interface, accepted) :: interfaces =>
      have := decidableRecordsJoins group (u.multicastGroupJoin group interface accepted).2
        interfaces
      inferInstanceAs (Decidable (_ ∧ _))

instance decidableRecordsLeaves (group : Option Nat) :
    (u : UdpConnection) → (interfaces : List (Nat × Bool)) →
      Decidable (RecordsLeaves group u interfaces)
  | _, [] => inferInstanceAs (Decidable True)
  | u, (interface, removed) :: interfaces =>
      have := decidableRecordsLeaves group (u.multicastGroupLeave group interface removed).2
        interfaces
      inferInstanceAs (Decidable (_ ∧ (_ → _)))

end UdpConnection

open UdpConnection

/-- A call that keeps the record true: its joins and leaves are accepted. -/
def KeepsRecord (_ : Within) (_ : Emit) (u : UdpConnection) : ClientCall → Prop
  | .plain (.groupJoin group interface accepted) => u.RecordsJoin group interface accepted
  | .plain (.groupJoinAll group interfaces) => u.RecordsJoins group interfaces
  | .plain (.groupLeave group interface removed) => u.RecordsLeave group interface removed
  | .plain (.groupLeaveAll group interfaces) => u.RecordsLeaves group interfaces
  | _ => True

instance (x : Within) (emit : Emit) (u : UdpConnection) :
    (c : ClientCall) → Decidable (KeepsRecord x emit u c)
  | .plain c =>
      match c with
      | .groupJoin group interface accepted =>
          inferInstanceAs (Decidable (u.RecordsJoin group interface accepted))
      | .groupJoinAll group interfaces =>
          inferInstanceAs (Decidable (u.RecordsJoins group interfaces))
      | .groupLeave group interface removed =>
          inferInstanceAs (Decidable (u.RecordsLeave group interface removed))
      | .groupLeaveAll group interfaces =>
          inferInstanceAs (Decidable (u.RecordsLeaves group interfaces))
      | .setRemoteAddr _ | .commitDataframe .. | .commitDataframeTo .. | .writeTo ..
      | .connectSlot | .disconnectSlot _ | .clearSlots => inferInstanceAs (Decidable True)
  | .opens .. | .connects .. | .disconnects | .closes => inferInstanceAs (Decidable True)

/-! ## What it keeps -/

namespace UdpConnection

/-- The record is what an open socket has joined, without duplicates, and no join has failed and
changed it. -/
structure Subscribed (u : UdpConnection) : Prop where
  unchanged : u.changedByFailure = false
  joined : u.isConnected = true → u.socket.memberships = u.multicastSubscriptions
  nodup : u.multicastSubscriptions.Nodup

variable {u v : UdpConnection} {group : Option Nat}

/-- What differs from a subscribed connection at most by being closed is subscribed. -/
theorem LikeOrClosed.subscribed (h : u.LikeOrClosed v) (hu : u.Subscribed) : v.Subscribed where
  unchanged := h.changedByFailure.trans hu.unchanged
  joined hopen := by
    obtain ⟨hwas, hsocket, -⟩ := h.kept hopen
    rw [hsocket, h.recorded]
    exact hu.joined hwas
  nodup := h.recorded ▸ hu.nodup

/-- A join that fails before anything is recorded. -/
theorem join_refused (h : u.isIpv6 = true ∨ group = none) (interface : Nat) (accepted : Bool) :
    u.multicastGroupJoin group interface accepted = (false, u) := by
  unfold multicastGroupJoin
  cases hv6 : u.isIpv6 with
  | true => simp [noteJoin]
  | false =>
      obtain rfl : group = none := h.resolve_left (by simp [hv6])
      simp [noteJoin]

/-- A join that is recorded, on an open socket once the kernel has accepted it. -/
theorem join_recorded (hv4 : u.isIpv6 = false) {g interface : Nat} {accepted : Bool}
    (haccepted : u.isConnected = true → accepted = true)
    (hnew : u.isConnected = true → ⟨g, interface⟩ ∉ u.socket.memberships) :
    u.multicastGroupJoin (some g) interface accepted =
      (true, { u with
        multicastSubscriptions := u.multicastSubscriptions ++ [⟨g, interface⟩]
        socket := if u.isConnected then
            { u.socket with memberships := u.socket.memberships ++ [⟨g, interface⟩] }
          else u.socket }) := by
  unfold multicastGroupJoin
  rw [if_neg (by simp [hv4])]
  cases hopen : u.isConnected with
  | false => simp [noteJoin]
  | true =>
      have hjoin := Socket.subscribe_eq_some_iff.2 ⟨haccepted hopen, hnew hopen, rfl⟩
      simp [noteJoin, hjoin]

/-- Recording a subscription that the socket has joined keeps the record true. -/
theorem Subscribed.recorded (hu : u.Subscribed) {s : Subscription}
    (hnew : s ∉ u.multicastSubscriptions) :
    { u with
      multicastSubscriptions := u.multicastSubscriptions ++ [s]
      socket := if u.isConnected then
          { u.socket with memberships := u.socket.memberships ++ [s] }
        else u.socket }.Subscribed where
  unchanged := hu.unchanged
  joined hopen := by
    have hwas : u.isConnected = true := hopen
    simp [hwas, hu.joined hwas]
  nodup := hu.nodup.append (List.nodup_singleton s) (List.disjoint_singleton.2 hnew)

/-- A join that records what the kernel answered keeps the record true. -/
theorem Subscribed.join (hu : u.Subscribed) {interface : Nat} {accepted : Bool}
    (h : u.RecordsJoin group interface accepted) :
    (u.multicastGroupJoin group interface accepted).2.Subscribed := by
  by_cases hrefused : u.isIpv6 = true ∨ group = none
  · rw [join_refused hrefused]
    exact hu
  · obtain ⟨hv4, hgroup⟩ := not_or.1 hrefused
    obtain ⟨g, rfl⟩ := Option.ne_none_iff_exists'.1 hgroup
    obtain ⟨hnew, haccepted⟩ := h (by simpa using hv4) g rfl
    rw [join_recorded (by simpa using hv4) haccepted fun hopen => hu.joined hopen ▸ hnew]
    exact hu.recorded hnew

/-- Where the group can be parsed all the joins succeed. -/
theorem Subscribed.join_all {g : Nat} {interfaces : List (Nat × Bool)} (hu : u.Subscribed)
    (hv4 : u.isIpv6 = false) (h : u.RecordsJoins (some g) interfaces) :
    (u.joinAll (some g) interfaces).1 = true ∧ (u.joinAll (some g) interfaces).2.Subscribed := by
  induction interfaces generalizing u with
  | nil => exact ⟨rfl, hu⟩
  | cons p interfaces ih =>
      obtain ⟨hnew, haccepted⟩ := h.1 hv4 g rfl
      have hjoin := join_recorded hv4 haccepted fun hopen => hu.joined hopen ▸ hnew
      obtain ⟨-, hrest⟩ := h
      rw [hjoin] at hrest
      rw [joinAll, hjoin]
      exact ih (hu.recorded hnew) hv4 hrest

/-- So does a join on every interface, one after the other. -/
theorem Subscribed.join_all_interfaces {interfaces : List (Nat × Bool)} (hu : u.Subscribed)
    (h : u.RecordsJoins group interfaces) :
    (u.multicastGroupJoinAll group interfaces).2.Subscribed := by
  have hnote : (noteJoin u.multicastSubscriptions (false, u)).2 = u := by simp [noteJoin]
  unfold multicastGroupJoinAll
  cases hv6 : u.isIpv6 with
  | true =>
      rw [if_pos rfl, hnote]
      exact hu
  | false =>
      rw [if_neg Bool.false_ne_true]
      cases group with
      | some g =>
          obtain ⟨hok, hsubscribed⟩ := hu.join_all hv6 h
          rcases hjoined : u.joinAll (some g) interfaces with ⟨_ | _, v⟩
          · simp [hjoined] at hok
          · rwa [hjoined] at hsubscribed
      | none =>
          cases interfaces with
          | nil => exact hu
          | cons p interfaces =>
              rw [joinAll, join_refused (.inr rfl), hnote]
              exact hu

/-- A leave takes the subscription out of the record and out of the memberships. -/
theorem Subscribed.leave (hu : u.Subscribed) {interface : Nat} {removed : Bool}
    (h : u.RecordsLeave group interface removed) :
    (u.multicastGroupLeave group interface removed).2.Subscribed := by
  unfold multicastGroupLeave
  split
  · exact hu
  · next hv4 =>
    cases group with
    | none => exact hu
    | some g =>
        have hnodup := hu.nodup.filter (· ≠ ⟨g, interface⟩)
        have hremoved := h (by simpa using hv4) g rfl
        dsimp only
        split
        · next hopen =>
          have hjoined := hu.joined hopen
          unfold Socket.unsubscribe
          split_ifs with htaken
          · exact ⟨hu.unchanged, fun _ => congrArg _ hjoined, hnodup⟩
          · have habsent : ⟨g, interface⟩ ∉ u.multicastSubscriptions := fun hmem =>
              htaken ⟨hremoved hopen hmem, hjoined ▸ hmem⟩
            have hsame : u.multicastSubscriptions.filter (· ≠ ⟨g, interface⟩) =
                u.multicastSubscriptions :=
              List.filter_eq_self.2 fun _ hs =>
                decide_eq_true (ne_of_mem_of_not_mem hs habsent)
            exact ⟨hu.unchanged, fun _ => hjoined.trans hsame.symm, hnodup⟩
        · next hclosed => exact ⟨hu.unchanged, fun hopen => absurd hopen hclosed, hnodup⟩

/-- So does leaving a group on every interface. -/
theorem Subscribed.leave_all {interfaces : List (Nat × Bool)} (hu : u.Subscribed)
    (h : u.RecordsLeaves group interfaces) : (u.leaveAll group interfaces).2.Subscribed := by
  induction interfaces generalizing u with
  | nil => exact hu
  | cons p interfaces ih =>
      have hleft := hu.leave h.1
      have hrest := h.2
      rw [leaveAll]
      rcases hleave : u.multicastGroupLeave group p.1 p.2 with ⟨_ | _, v⟩ <;>
        rw [hleave] at hleft hrest
      · exact hleft
      · exact ih hleft (hrest rfl)

/-- A socket that is opened has what is recorded. -/
theorem Subscribed.of_socket {v : UdpConnection} (hu : u.Subscribed) {socket : Socket}
    {accepts : Subscription → Bool}
    (h : Socket.subscribeAll accepts {} u.multicastSubscriptions = some socket)
    (hsocket : v.socket.memberships = socket.memberships)
    (hrecorded : v.multicastSubscriptions = u.multicastSubscriptions)
    (hunchanged : v.changedByFailure = u.changedByFailure) : v.Subscribed where
  unchanged := hunchanged.trans hu.unchanged
  joined _ := by
    rw [hsocket, hrecorded]
    exact (Socket.subscribe_all_memberships h List.nodup_nil).1
  nodup := hrecorded ▸ hu.nodup

/-- Opening a socket joins what is recorded, or leaves the connection closed. -/
theorem Subscribed.begin_open (hu : u.Subscribed) (o : Opening) :
    (u.beginOpen o).2.Subscribed := by
  by_cases hgets : u.GetsSocket o
  · obtain ⟨_, _, _, _, _, _, _, _, heq, hsubs, -⟩ := u.begin_open_of_gets_socket hgets
    rw [heq]
    exact hu.of_socket hsubs rfl rfl rfl
  · exact (u.like_begin_open hgets).1.subscribed hu

/-- Connecting first opens, and so keeps the record true. -/
theorem Subscribed.begin_connect (hu : u.Subscribed) (connectedSocket : Bool) (o : Opening) :
    (u.beginConnect connectedSocket o).2.Subscribed :=
  Subscribed.begin_open (u := { u with connectedSocket }) ⟨hu.unchanged, hu.joined, hu.nodup⟩ o

/-- A new remote address touches no membership. -/
theorem Subscribed.set_remote_addr (hu : u.Subscribed) (r : Resolution) :
    (u.setRemoteAddr r).2.Subscribed := by
  obtain ⟨_, _, heq⟩ := u.set_remote_addr_cases r
  rw [heq]
  exact ⟨hu.unchanged, hu.joined, hu.nodup⟩

/-- A whole connect keeps the record true where the handlers of its signal do. -/
theorem Subscribed.connect_with (hu : u.Subscribed) {connectedSocket : Bool} {o : Opening}
    {emit : Emit} {r : Resolution}
    (hemit : (u.beginConnect connectedSocket o).1 = true → ∀ ok w,
      emit (u.beginConnect connectedSocket o).2 = some (ok, w) → w.Subscribed)
    {result : Bool × UdpConnection} (h : u.connectWith connectedSocket o emit r = some result) :
    result.2.Subscribed := by
  have hopened {ok : Bool} {w : UdpConnection}
      (hw : { u with connectedSocket }.openWith o emit = some (ok, w)) : w.Subscribed := by
    obtain ⟨-, heq⟩ | ⟨hbegins, -, signalled, hemitted⟩ := open_with_cases _ hw
    · have hbegun := hu.begin_connect connectedSocket o
      rw [beginConnect, ← heq] at hbegun
      exact hbegun
    · exact hemit hbegins signalled w hemitted
  have hfailed : ∀ {v : UdpConnection}, v.Subscribed → v.failedConnect.Subscribed :=
    fun hv => ⟨hv.unchanged, hv.joined, hv.nodup⟩
  refine u.connect_with_rule (fun _ => hfailed hu) (fun _ w hw => hfailed (hopened hw))
    (fun _ w hw ok v hresult => ?_) h
  have hset := (hopened hw).set_remote_addr r
  rw [hresult] at hset
  cases ok with
  | false => exact hfailed hset
  | true => exact hset

end UdpConnection

/-- The calls that meet the condition keep the record true. -/
theorem keeps_record_kept : KeptByCalls KeepsRecord fun _ => Subscribed where
  like hu h := h.subscribed hu
  close := Iff.rfl
  closes := trivial
  call := by
    intro x emit u c hK hu
    cases c with
    | setRemoteAddr r => exact hu.set_remote_addr r
    | commitDataframe body fits =>
        exact (u.same_but_channel_commit_dataframe body fits).like.subscribed hu
    | commitDataframeTo addr body fits =>
        exact (u.same_but_channel_commit_dataframe_to addr body fits).like.subscribed hu
    | writeTo addr body fits =>
        exact (u.same_but_channel_write_to addr body fits).like.subscribed hu
    | groupJoin group interface accepted => exact hu.join hK
    | groupJoinAll group interfaces => exact hu.join_all_interfaces hK
    | groupLeave group interface removed => exact hu.leave hK
    | groupLeaveAll group interfaces =>
        simp only [UdpConnection.call, multicastGroupLeaveAll]
        split_ifs
        · exact hu
        · exact hu.leave_all hK
    | connectSlot | disconnectSlot connection | clearSlots =>
        exact (u.like_signal _).subscribed hu
  opened := fun _ hu _ => hu.begin_open _
  connect := fun _ hu => ⟨fun _ => hu.begin_connect .., fun hemit _ => hu.connect_with hemit⟩

/-- In a run whose joins and leaves meet the condition no join that fails changes the record, and
the record is what an open socket has joined, without duplicates, so that a new socket can be opened
with it if the kernel refuses nothing else. -/
theorem subscribed_as_recorded (maxDgramLen : Nat) (isIpv6 : Bool) {ops : List UdpOp}
    (h : (create maxDgramLen isIpv6).Along (fun u op => op.Each KeepsRecord u) ops) :
    ∀ u ∈ (create maxDgramLen isIpv6).after ops,
      u.Subscribed ∧ ∀ accepts : Subscription → Bool,
        (∀ s ∈ u.multicastSubscriptions, accepts s = true) →
        (Socket.subscribeAll accepts {} u.multicastSubscriptions).isSome = true := by
  intro u hu
  have hsubscribed : u.Subscribed := by
    refine h.keeps ⟨rfl, fun _ => rfl, List.nodup_nil⟩ ?_ u hu
    intro u op v hu hop hstep
    refine keeps_record_kept.step ?_ hop hu hstep
    intro u w t hu hclosed hsocket hagain
    obtain ⟨_, _, heq⟩ | ⟨_, _, _, heq, hsubs, -⟩ := u.open_socket_cases t.setup
    · simp [heq] at hsocket
    · rw [heq] at hagain
      obtain ⟨-, ⟨_, rfl⟩, -⟩ | ⟨hfails, -⟩ := connect_again_cases _ hagain
      · exact hu.of_socket hsubs rfl rfl rfl
      · cases hfails
  exact ⟨hsubscribed, fun _ haccepts => Socket.subscribe_all_isSome haccepts hsubscribed.nodup⟩

namespace UdpSample

/-- A handler joins two groups when the socket is open, and one is left; the socket is lost and
opened by the timer. -/
def rejoin : List UdpOp :=
  [.calls (.plain .connectSlot) (.succeeds []),
    .calls (.opens opening) (.succeeds [.plain (.groupJoinAll (some 5) [(1, true), (2, true)])]),
    .calls (.plain (.groupLeave (some 5) 1 true)) (.succeeds []), .fdCloses (.succeeds []),
    timer (.succeeds [])]

/-- A group is joined twice; the socket is lost and the timer fires. -/
def joinTwice : List UdpOp :=
  [.calls (.opens opening) (.succeeds []),
    .calls (.plain (.groupJoin (some 5) 1 true)) (.succeeds []),
    .calls (.plain (.groupJoin (some 5) 1 true)) (.succeeds []), .fdCloses (.succeeds []),
    timer (.succeeds [])]

end UdpSample

open UdpSample

/-- The theorem on a run that joins, closes and connects again. -/
theorem rejoined_as_recorded :
    start.Along (fun u op => op.Each KeepsRecord u) rejoin ∧
    (∃ u ∈ start.after rejoin, u.isConnected = true ∧ u.socket.memberships = [⟨5, 2⟩]) ∧
    ∀ u ∈ start.after rejoin,
      u.Subscribed ∧ ∀ accepts : Subscription → Bool,
        (∀ s ∈ u.multicastSubscriptions, accepts s = true) →
        (Socket.subscribeAll accepts {} u.multicastSubscriptions).isSome = true := by
  have h : start.Along (fun u op => op.Each KeepsRecord u) rejoin := by decide
  exact ⟨h, by decide, subscribed_as_recorded 1500 false h⟩

/-- The second join is refused and recorded, and from then on no socket can be opened. -/
theorem refused_join_is_recorded :
    ¬∀ (maxDgramLen : Nat) (isIpv6 : Bool) (ops : List UdpOp),
      ∀ u ∈ (create maxDgramLen isIpv6).after ops,
        u.Subscribed ∧ ∀ accepts : Subscription → Bool,
          (∀ s ∈ u.multicastSubscriptions, accepts s = true) →
          (Socket.subscribeAll accepts {} u.multicastSubscriptions).isSome = true := by
  intro h
  have hrecorded : ∃ u ∈ start.after joinTwice, u.changedByFailure = true ∧
      ¬u.multicastSubscriptions.Nodup := by decide
  obtain ⟨u, hu, hchanged, -⟩ := hrecorded
  have hunchanged := (h 1500 false joinTwice u hu).1.unchanged
  rw [hchanged] at hunchanged
  cases hunchanged

end Codon.Io
