import Codon.Io.FdDgramChannel
import Mathlib.Tactic.ByContra

/-!
# The firewall of datagram channels

`handle_fd_read` decides from the length of the source address whether the firewall is asked: it
takes every address longer than a `sockaddr` for a local one. A datagram from an IPv6 address
is therefore committed whatever the slots say. Main result: `firewalled_iff`.
-/

namespace Codon.Io

namespace Reading

/-- The sender is local or accepted by every slot, if there are any. -/
def Passed (r : Reading) : Prop :=
  r.firewall ≠ [] → r.head.addr.family = afUnix ∨ r.accepted = true

/-- The firewall is asked unless the address is long, and does not reject the sender. -/
def Admitted (r : Reading) : Prop :=
  r.firewall ≠ [] → r.length ≤ sizeofSockaddr → r.accepted = true

end Reading

namespace FdDgramChannel

variable {c : FdDgramChannel} {r : Reading}

/-- A reading brings a datagram that is not too long, and the buffer takes it. -/
def Brings (c : FdDgramChannel) (r : Reading) : Prop :=
  c.reserveLen ≤ r.space ∧ r.committed = true ∧
    ∃ body, r.received = some body ∧ body.length ≤ c.maxOutputDgramLen

/-- What no pass of the loop changes. -/
def SameConfig (c c' : FdDgramChannel) : Prop :=
  c'.fdType = c.fdType ∧ c'.maxOutputDgramLen = c.maxOutputDgramLen

/-- What a reading brings depends on the configuration alone. -/
theorem SameConfig.brings_iff {c c' : FdDgramChannel} (h : SameConfig c c') :
    c'.Brings r ↔ c.Brings r := by
  simp only [Brings, reserveLen, h.2]

/-- So does whether the channel is a socket. -/
theorem SameConfig.is_socket {c c' : FdDgramChannel} (h : SameConfig c c') :
    c'.isSocket = c.isSocket := by
  simp only [isSocket, h.1]

/-- A received datagram is committed if it is brought to a socket. -/
theorem take_dgram_committed_iff (hsocket : c.isSocket = true) (hspace : c.reserveLen ≤ r.space)
    (head : SockHead) : (c.takeDgram head r).1 = .committed ↔ c.Brings r := by
  have htype : (c.fdType = .nonSocket || c.fdType = .tun) = false := by
    simp only [isSocket] at hsocket
    cases htype : c.fdType <;> simp_all
  cases hreceived : r.received with
  | none =>
      simp only [takeDgram, Brings, hreceived]
      cases r.broken <;> simp
  | some body =>
      by_cases hlong : c.maxOutputDgramLen < body.length
      · simp [takeDgram, Brings, hreceived, hlong]
      · have hfits := Nat.not_lt.1 hlong
        cases hcommitted : r.committed <;>
          simp [takeDgram, Brings, hreceived, hlong, htype, hcommitted, hspace, hfits]

/-- A pass commits a datagram if the firewall admits it. -/
theorem read_pass_committed_iff (hsocket : c.isSocket = true) :
    (c.readPass r).1 = .committed ↔ c.Brings r ∧ r.Admitted := by
  by_cases hspace : r.space < c.reserveLen
  · have hnot : ¬c.Brings r := fun h => absurd h.1 (Nat.not_le.2 hspace)
    simp only [readPass, if_pos hspace]
    cases r.removed <;> simp [hnot]
  · by_cases hrejected : r.firewall ≠ [] ∧ r.length ≤ sizeofSockaddr ∧ r.accepted = false
    · have hnot : ¬r.Admitted := fun h => by simp [h hrejected.1 hrejected.2.1] at hrejected
      simp [readPass, hspace, hsocket, hrejected, hnot]
    · have hadmitted : r.Admitted := fun hslots hshort => by
        by_contra haccepted
        exact hrejected ⟨hslots, hshort, by simpa using haccepted⟩
      have htake := take_dgram_committed_iff (c := c.use) (r := r) hsocket
        (Nat.not_lt.1 hspace) ⟨r.length, r.head.addr⟩
      simp only [readPass, hspace, if_false, hsocket, if_true, if_neg hrejected, htake]
      exact ⟨fun h => ⟨h, hadmitted⟩, fun h => h.1⟩

/-- Taking a datagram keeps the configuration. -/
theorem take_dgram_config (c : FdDgramChannel) (head : SockHead) (r : Reading) :
    SameConfig c (c.takeDgram head r).2 := by
  unfold takeDgram
  split
  · exact ⟨rfl, rfl⟩
  · split_ifs <;> exact ⟨rfl, rfl⟩

/-- Switching an event keeps it. -/
theorem switch_events_config (c : FdDgramChannel) (ev : FdEv) (on taken : Bool) :
    SameConfig c (c.switchEvents ev on taken) := by
  unfold switchEvents
  split_ifs <;> exact ⟨rfl, rfl⟩

/-- A pass over the socket keeps it. -/
theorem read_pass_config (c : FdDgramChannel) (r : Reading) : SameConfig c (c.readPass r).2 := by
  unfold readPass
  by_cases hspace : r.space < c.reserveLen
  · rw [if_pos hspace]
    exact switch_events_config ..
  · rw [if_neg hspace]
    split_ifs
    · exact ⟨rfl, rfl⟩
    · exact take_dgram_config c.use ..
    · exact ⟨rfl, rfl⟩
    · exact take_dgram_config c.use ..

/-- The readings that the loop makes. -/
def readingsMade : FdDgramChannel → List Reading → List Reading
  | _, [] => []
  | c, r :: readings =>
      r :: match c.readPass r with
        | (.again, c) | (.committed, c) => if c.isNonblocking then readingsMade c readings else []
        | (.stop, _) | (.fail, _) => []

/-- The loop commits what its readings bring and the firewall admits. -/
theorem mem_read_loop_iff (hsocket : c.isSocket = true) (readings dgramsRead : List Reading) :
    r ∈ (c.readLoop dgramsRead readings).2.1 ↔
      r ∈ dgramsRead ∨ r ∈ c.readingsMade readings ∧ c.Brings r ∧ r.Admitted := by
  induction readings generalizing c dgramsRead with
  | nil => simp [readLoop, readingsMade]
  | cons first readings ih =>
      have hpass := read_pass_committed_iff (c := c) (r := first) hsocket
      have hconfig := read_pass_config c first
      simp only [readLoop, readingsMade]
      generalize c.readPass first = result at hpass hconfig
      obtain ⟨pass, after⟩ := result
      have hsocket' : after.isSocket = true := hconfig.is_socket.trans hsocket
      have hfirst : r = first ∧ c.Brings r ∧ r.Admitted ↔ r = first ∧ pass = .committed :=
        and_congr_right fun heq => by rw [heq, ← hpass]
      cases pass with
      | committed =>
          cases hblock : after.isNonblocking with
          | false => simp [hfirst, hblock]
          | true => simp [or_and_right, hfirst, hblock, ih hsocket', hconfig.brings_iff, or_assoc]
      | again =>
          cases hblock : after.isNonblocking with
          | false => simp [hfirst, hblock]
          | true => simp [or_and_right, hfirst, hblock, ih hsocket', hconfig.brings_iff]
      | stop => simp [hfirst]
      | fail => simp [hfirst]

/-- Committing a datagram for writing keeps it. -/
theorem commit_dataframe_config (c : FdDgramChannel) (addr : Option SockHead)
    (body : List UInt8) (fits added : Bool) :
    SameConfig c (c.commitDataframe addr body fits added).2 := by
  unfold commitDataframe channelCommitDataframe
  split_ifs
  all_goals first | exact ⟨rfl, rfl⟩ | exact switch_events_config ..

/-- The calls that a handler makes keep it. -/
theorem make_config (c : FdDgramChannel) (calls : Calls) : SameConfig c (c.make calls) := by
  refine make_induction (R := SameConfig) (fun c => ⟨rfl, rfl⟩)
    (fun h h' => ⟨h'.1.trans h.1, h'.2.trans h.2⟩) commit_dataframe_config ?_
    (fun c output _ => ⟨rfl, rfl⟩) (fun c => ⟨rfl, rfl⟩) ?_ ?_ c calls
  · intro c added
    unfold resumeReading
    split_ifs
    · exact switch_events_config ..
    · exact ⟨rfl, rfl⟩
  · intro c signalled removed
    unfold stopWriting
    split_ifs
    · exact ⟨rfl, rfl⟩
    · exact switch_events_config ..
    · exact ⟨rfl, rfl⟩
  · intro c removed
    have hstop := switch_events_config
      { c with isClosedFlag := true, input := c.input } .read false removed
    unfold channelClose
    split_ifs
    · exact ⟨rfl, rfl⟩
    · exact hstop
    · exact hstop
    · exact hstop

/-- The readings that `handle_fd_read` makes. -/
def readingsOf (c : FdDgramChannel) (event : FdEvent) (e : ReadEvent) : List Reading :=
  if ¬c.OwnEvent event then []
  else if e.space < c.reserveLen ∧ e.makeRoom.result = false then []
  else (c.beforeReading e).readingsMade (e.first :: e.readings)

/-- What happens before the reads of an event keeps it. -/
theorem before_reading_config (c : FdDgramChannel) (e : ReadEvent) :
    SameConfig c (c.beforeReading e) := by
  unfold beforeReading
  split_ifs
  · exact make_config ..
  · exact ⟨rfl, rfl⟩

/-- `handle_fd_read` commits what its readings bring and the firewall admits. -/
theorem mem_handle_fd_read_iff (hsocket : c.isSocket = true) (event : FdEvent) (e : ReadEvent) :
    r ∈ (c.handleFdRead event e).2.1 ↔
      r ∈ c.readingsOf event e ∧ c.Brings r ∧ r.Admitted := by
  have hconfig := before_reading_config c e
  have hloop := mem_read_loop_iff (r := r) (hconfig.is_socket.trans hsocket)
    (e.first :: e.readings) []
  rw [hconfig.brings_iff] at hloop
  unfold handleFdRead readingsOf
  by_cases hown : c.OwnEvent event
  · by_cases hroom : e.space < c.reserveLen ∧ e.makeRoom.result = false
    · simp [hown, hroom]
    · rw [if_neg (not_not.2 hown), if_neg hroom, if_neg (not_not.2 hown), if_neg hroom, readAll]
      generalize (c.beforeReading e).readLoop [] (e.first :: e.readings) = result at hloop
      obtain ⟨ok, dgramsRead, after⟩ := result
      cases ok with
      | false => simpa using hloop
      | true => cases dgramsRead <;> simpa using hloop
  · simp [hown]

/-! ## The read buffer -/

/-- A datagram holds what a reading has brought. -/
def Holds (dgram : Dgram) (r : Reading) : Prop :=
  dgram.head = ⟨r.length, r.head.addr⟩ ∧ r.received = some dgram.body

/-- A datagram of the output was there before or is the one just taken. -/
theorem mem_take_dgram {dgram : Dgram} {head : SockHead}
    (h : dgram ∈ (c.takeDgram head r).2.output) :
    dgram ∈ c.output ∨
      (c.takeDgram head r).1 = .committed ∧ dgram.head = head ∧ r.received = some dgram.body := by
  cases hreceived : r.received with
  | none =>
      rw [takeDgram, hreceived] at h
      exact .inl h
  | some body =>
      simp only [takeDgram, hreceived] at h ⊢
      split_ifs at h ⊢
      · exact .inl h
      · exact .inl h
      · exact .inl h
      all_goals
        have hmem : dgram ∈ c.output ++ [⟨head, body⟩] := by
          first
          | exact List.mem_of_mem_tail h
          | exact h
        obtain hold | hnew := List.mem_append.1 hmem
        · exact .inl hold
        · obtain rfl := List.mem_singleton.1 hnew
          exact .inr ⟨rfl, rfl, rfl⟩

/-- A pass only adds the datagram that it commits. -/
theorem mem_read_pass (hsocket : c.isSocket = true) {dgram : Dgram}
    (h : dgram ∈ (c.readPass r).2.output) :
    dgram ∈ c.output ∨ (c.readPass r).1 = .committed ∧ Holds dgram r := by
  have hswitch : (c.switchEvents .read false r.removed).output = c.output := by
    unfold switchEvents
    split_ifs <;> rfl
  unfold readPass at h ⊢
  by_cases hspace : r.space < c.reserveLen
  · rw [if_pos hspace] at h
    exact .inl (hswitch ▸ h)
  · rw [if_neg hspace, if_pos hsocket] at h ⊢
    by_cases hrejected : r.firewall ≠ [] ∧ r.length ≤ sizeofSockaddr ∧ r.accepted = false
    · rw [if_pos hrejected] at h
      exact .inl h
    · rw [if_neg hrejected] at h ⊢
      exact mem_take_dgram (c := c.use) h

/-- A datagram of the output was there before or was read in the loop. -/
theorem mem_read_loop_output (hsocket : c.isSocket = true) {dgram : Dgram}
    (readings dgramsRead : List Reading)
    (h : dgram ∈ (c.readLoop dgramsRead readings).2.2.output) :
    dgram ∈ c.output ∨ ∃ r ∈ (c.readLoop dgramsRead readings).2.1, Holds dgram r := by
  -- over the datagrams that the socket has, with those that the loop has read already
  induction readings generalizing c dgramsRead with
  | nil => exact .inl h
  | cons first readings ih =>
      have hpass : dgram ∈ (c.readPass first).2.output → _ := mem_read_pass hsocket
      have hsocket' := (read_pass_config c first).is_socket.trans hsocket
      simp only [readLoop] at h ⊢
      generalize c.readPass first = result at h hpass hsocket' ⊢
      obtain ⟨pass, after⟩ := result
      cases pass with
      | committed =>
          have hkept : ∀ readings, first ∈ (after.readLoop (dgramsRead ++ [first]) readings).2.1 :=
            fun readings => (mem_read_loop_iff hsocket' readings _).2 (.inl (by simp))
          cases hblock : after.isNonblocking with
          | false =>
              simp only [hblock, Bool.false_eq_true, if_false] at h ⊢
              obtain hold | ⟨-, hholds⟩ := hpass h
              · exact .inl hold
              · exact .inr ⟨first, by simp, hholds⟩
          | true =>
              simp only [hblock, if_true] at h ⊢
              obtain hafter | hlater := ih hsocket' _ h
              · obtain hold | ⟨-, hholds⟩ := hpass hafter
                · exact .inl hold
                · exact .inr ⟨first, hkept readings, hholds⟩
              · exact .inr hlater
      | again =>
          have hsame : dgram ∈ after.output → dgram ∈ c.output := fun hafter =>
            (hpass hafter).resolve_right nofun
          cases hblock : after.isNonblocking with
          | false =>
              simp only [hblock, Bool.false_eq_true, if_false] at h
              exact .inl (hsame h)
          | true =>
              simp only [hblock, if_true] at h ⊢
              exact (ih hsocket' _ h).imp_left hsame
      | stop => exact .inl ((hpass h).resolve_right nofun)
      | fail => exact .inl ((hpass h).resolve_right nofun)

/-- Handlers add nothing to the read buffer. -/
theorem make_output (c : FdDgramChannel) (calls : Calls) :
    (c.make calls).output.Sublist c.output := by
  refine make_induction (R := fun c c' => c'.output.Sublist c.output) (fun c => .refl _)
    (fun h h' => h'.trans h) ?_ ?_ (fun c output h => h) (fun c => .refl _) ?_ ?_ c calls
  · intro c addr body fits added
    unfold commitDataframe channelCommitDataframe switchEvents
    split_ifs <;> exact .refl _
  · intro c added
    unfold resumeReading switchEvents
    split_ifs <;> exact .refl _
  · intro c signalled removed
    unfold stopWriting switchEvents
    split_ifs <;> exact .refl _
  · intro c removed
    unfold channelClose drop stopReading switchEvents
    split_ifs <;> exact .refl _

/-- What the client finds in the read buffer was there or has been committed. -/
theorem mem_handle_fd_read_output (hsocket : c.isSocket = true) (event : FdEvent) (e : ReadEvent)
    {dgram : Dgram} (h : dgram ∈ (c.handleFdRead event e).2.2.output) :
    dgram ∈ c.output ∨ ∃ r ∈ (c.handleFdRead event e).2.1, Holds dgram r := by
  have hbefore : (c.beforeReading e).output.Sublist c.output := by
    unfold beforeReading
    split_ifs
    · exact make_output ..
    · exact .refl _
  have hloop : dgram ∈ ((c.beforeReading e).readLoop [] (e.first :: e.readings)).2.2.output → _ :=
    mem_read_loop_output ((before_reading_config c e).is_socket.trans hsocket) _ _
  unfold handleFdRead at h ⊢
  by_cases hown : c.OwnEvent event
  · by_cases hroom : e.space < c.reserveLen ∧ e.makeRoom.result = false
    · rw [if_neg (not_not.2 hown), if_pos hroom] at h
      exact .inl (hbefore.subset h)
    · rw [if_neg (not_not.2 hown), if_neg hroom, readAll] at h ⊢
      generalize (c.beforeReading e).readLoop [] (e.first :: e.readings) = result at h hloop ⊢
      obtain ⟨ok, dgramsRead, after⟩ := result
      cases ok with
      | false => exact (hloop h).imp_left (hbefore.subset ·)
      | true =>
          cases dgramsRead with
          | nil => exact (hloop h).imp_left (hbefore.subset ·)
          | cons first rest =>
              exact (hloop ((make_output ..).subset h)).imp_left (hbefore.subset ·)
  · rw [if_pos hown] at h
    exact .inl h

end FdDgramChannel

/-! ## The firewall -/

/-- The firewall is asked for an address that is not long. -/
theorem Reading.Admitted.passed {r : Reading} (h : r.Admitted)
    (hlong : sizeofSockaddr < r.length → r.Passed) : r.Passed := by
  intro hslots
  by_cases hshort : r.length ≤ sizeofSockaddr
  · exact .inr (h hslots hshort)
  · exact hlong (Nat.not_le.1 hshort) hslots

/-- It is not asked for a long one. -/
theorem Reading.admitted_of_long {r : Reading} (hlong : sizeofSockaddr < r.length) :
    r.Admitted :=
  fun _ hshort => absurd hshort (Nat.not_le.2 hlong)

namespace FdDgramChannel

/-- What is in the read buffer after `handle_fd_read` was there or has been committed. While the
firewall has slots, every datagram that is committed is from a local sender or one that all
slots accept, exactly if every datagram with a long address that is read is. -/
theorem firewalled_iff {c : FdDgramChannel} (hsocket : c.isSocket = true) (event : FdEvent)
    (e : ReadEvent) :
    (∀ dgram ∈ (c.handleFdRead event e).2.2.output,
      dgram ∈ c.output ∨ ∃ r ∈ (c.handleFdRead event e).2.1, Holds dgram r) ∧
    ((∀ r ∈ (c.handleFdRead event e).2.1, r.Passed) ↔
      ∀ r ∈ c.readingsOf event e, c.Brings r → sizeofSockaddr < r.length → r.Passed) := by
  refine ⟨fun dgram => mem_handle_fd_read_output hsocket event e, ?_, ?_⟩
  · intro hpassed r hmade hbrings hlong
    exact hpassed r ((mem_handle_fd_read_iff hsocket event e).2
      ⟨hmade, hbrings, Reading.admitted_of_long hlong⟩)
  · intro hlong r hcommitted
    obtain ⟨hmade, hbrings, hadmitted⟩ := (mem_handle_fd_read_iff hsocket event e).1 hcommitted
    exact hadmitted.passed (hlong r hmade hbrings)

end FdDgramChannel

namespace Sample

/-- A datagram channel with a nonblocking unconnected socket. -/
def udpChannel : FdDgramChannel where
  input := []
  output := []
  maxInputDgramLen := 8
  maxOutputDgramLen := 8
  canRead := true
  canWrite := true
  fes := some ⟨1, 7, true, true⟩
  isClosedFlag := false
  isNonblocking := true
  fdType := .uconnSocket
  handlingWrite := false
  isLowLatency := false
  ignoreWriteErrors := false
  keepOnlyLastDgram := false
  misuses := 0

/-- A datagram of one byte from an address of a family, with a slot that rejects everything. -/
def rejected (family length : Nat) : Reading where
  space := 200
  removed := true
  received := some [1]
  broken := false
  head := ⟨length, ⟨family, []⟩⟩
  firewall := [fun _ _ => false]
  committed := true

/-- A read event with one datagram. -/
def oneDatagram (r : Reading) : ReadEvent where
  space := 200
  makeRoom := ⟨.done, true⟩
  first := r
  readings := []
  newData := ⟨.done, true⟩

end Sample

open FdDgramChannel in
/-- A slot rejects every sender. A datagram from an IPv4 address is dropped, one from an IPv6
address, whose length is 28, gets into the read buffer. -/
theorem ipv6_bypasses_firewall :
    let event : FdEvent := ⟨1, 7⟩
    (Sample.udpChannel.handleFdRead event (Sample.oneDatagram (Sample.rejected 2 16))).2.2.output
      = [] ∧
    (Sample.udpChannel.handleFdRead event (Sample.oneDatagram (Sample.rejected 10 28))).2.2.output
      = [⟨⟨28, ⟨10, []⟩⟩, [1]⟩] ∧
    ¬∀ r ∈ (Sample.udpChannel.handleFdRead event
      (Sample.oneDatagram (Sample.rejected 10 28))).2.1, r.Passed := by
  refine ⟨by decide, by decide, fun hpassed => ?_⟩
  have hcommitted : Sample.rejected 10 28 ∈ (Sample.udpChannel.handleFdRead ⟨1, 7⟩
      (Sample.oneDatagram (Sample.rejected 10 28))).2.1 :=
    (mem_handle_fd_read_iff rfl _ _).2
      ⟨.head _, ⟨by decide, rfl, [1], rfl, by decide⟩, fun _ hshort => absurd hshort (by decide)⟩
  obtain hlocal | haccepted := hpassed _ hcommitted nofun
  · cases hlocal
  · cases haccepted

/-- Datagrams from IPv4 addresses are committed only if the firewall accepts them. -/
theorem ipv4_firewalled :
    Sample.udpChannel.isSocket = true ∧
    ∀ r ∈ (Sample.udpChannel.handleFdRead ⟨1, 7⟩
      (Sample.oneDatagram (Sample.rejected 2 16))).2.1, r.Passed := by
  refine ⟨rfl, (FdDgramChannel.firewalled_iff rfl _ _).2.2 fun r hmade _ hlong => ?_⟩
  have hone : FdDgramChannel.readingsOf Sample.udpChannel ⟨1, 7⟩
      (Sample.oneDatagram (Sample.rejected 2 16)) = [Sample.rejected 2 16] := rfl
  rw [hone] at hmade
  obtain rfl := List.mem_singleton.1 hmade
  exact absurd hlong (by decide)

end Codon.Io
