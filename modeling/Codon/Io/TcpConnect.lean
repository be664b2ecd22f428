import Codon.Io.FdStreamChannel
import Mathlib.Tactic.SplitIfs

/-!
# What is left of an old stream when a connection is made

Before `TcpConnection::handle_connect` takes a new descriptor it emits the read signal as long as
the handlers consume, and then clears the read buffer. Two loops look at a `has_popped` each: the
one in `signal_read` at that of the base class, which the pops of a connection never set, the one in
`handle_connect` at that of `TcpConnection`, which they reset. `handle_connect_spec` says what the
handlers must do to be asked often enough. The base class, which is not in the source tree, is
represented by its flag, and the close signal is left out.
-/

namespace Codon.Io

/-- `is_drained` of the channel below. -/
def FdStreamChannel.isDrained (c : FdStreamChannel) : Bool :=
  c.isClosed && c.input.isEmpty && c.output.isEmpty

/-- An emission of the read signal: how many bytes its handlers popped, and what it returned. -/
structure ReadEmission where
  consumed : Nat
  result : Bool
deriving DecidableEq

/-- `TcpConnection`, with the flag of its base class and the emissions of the read signal since
`handle_connect` was called. -/
structure TcpConnection where
  fdChannel : FdStreamChannel
  streamHasPopped : Bool
  hasPopped : Bool
  emissions : List ReadEmission
deriving DecidableEq

/-- What the handlers of the read signal do at an emission: how many bytes they pop, and what they
return. -/
structure Handling where
  pops : List Nat
  result : Bool

/-- How many bytes a pop leaves. A pop of too many fails. -/
def leftBy (available bytes : Nat) : Nat :=
  if bytes ≤ available then available - bytes else available

/-- How many bytes pops leave. -/
def leftAfter (pops : List Nat) (available : Nat) : Nat := pops.foldl leftBy available

/-- The handlers do not have to be asked again: they report failure, or pop nothing, or all. -/
def Handling.Final (handling : Handling) (available : Nat) : Prop :=
  handling.result = false ∨ leftAfter handling.pops available = available ∨
    leftAfter handling.pops available = 0

/-- The handlers, if there are any: what they do at each emission. -/
abbrev ReadSig := Option (Nat → Handling)

/-- `ConnectionInfo`: whether it is valid, and its descriptor and the sink of it. -/
structure ConnectionInfo where
  isValid : Bool
  fd : Option (Nat × Nat)

namespace TcpConnection

/-- `is_empty`. -/
def isEmpty (t : TcpConnection) : Bool := t.fdChannel.output.isEmpty

/-- `is_connected`. -/
def isConnected (t : TcpConnection) : Bool := !t.fdChannel.isClosed

/-- `channel_pop_front`. -/
def channelPopFront (t : TcpConnection) (bytes : Nat) : Bool × TcpConnection :=
  let (popped, fdChannel) := t.fdChannel.popFront bytes true
  if popped then (true, { t with fdChannel, hasPopped := false }) else (false, { t with fdChannel })

/-- `StreamConnection::pop_front`. -/
def popFront (t : TcpConnection) (bytes : Nat) : Bool × TcpConnection :=
  if bytes = 0 then (true, t)
  else if t.isEmpty then (false, t)
  else t.channelPopFront bytes

/-- What the pops of handlers leave. -/
def pop (t : TcpConnection) (pops : List Nat) : TcpConnection :=
  pops.foldl (fun t bytes => (t.popFront bytes).2) t

/-- `read_sig.emit`. -/
def emit (t : TcpConnection) (handling : Handling) : Bool × TcpConnection :=
  let consumed := t.fdChannel.output.length - (t.pop handling.pops).fdChannel.output.length
  (handling.result,
    { t.pop handling.pops with emissions := t.emissions ++ [⟨consumed, handling.result⟩] })

/-- The loop of `signal_read`. -/
def signalReadLoop (handlers : Nat → Handling) : Nat → TcpConnection → Option (Bool × TcpConnection)
  | 0, _ => none
  | fuel + 1, t =>
      if t.isEmpty then some (true, t)
      else
        let (result, t) := { t with streamHasPopped := false }.emit (handlers t.emissions.length)
        if !result then some (false, t)
        else if !t.streamHasPopped then some (true, t)
        else signalReadLoop handlers fuel t

/-- `StreamConnection::signal_read`. -/
def signalRead (readSig : ReadSig) (fuel : Nat) (t : TcpConnection) :
    Option (Bool × TcpConnection) :=
  match readSig with
  | none => some (true, t)
  | some handlers => signalReadLoop handlers fuel t

/-- The loop of `handle_connect`. -/
def drainLoop (readSig : ReadSig) : Nat → TcpConnection → Option TcpConnection
  | 0, _ => none
  | fuel + 1, t =>
      if t.isEmpty then some t
      else
        match { t with hasPopped := false }.signalRead readSig (fuel + 1) with
        | none => none
        | some (read, t) =>
            if !read then some t
            else if !t.hasPopped then some t
            else drainLoop readSig fuel t

/-- What `handle_connect` does up to the assignment of the descriptor: the bytes that it discards,
and whether there was no failure. -/
structure Connecting where
  success : Bool
  connection : TcpConnection
  discarded : List UInt8

/-- The part of `handle_connect` after the loop, up to the assignment of the descriptor. -/
def assign (t : TcpConnection) (connInfo : ConnectionInfo) : Connecting :=
  let discarded := t.fdChannel.output
  let (cleared, fdChannel) := t.fdChannel.clear true
  let t := { t with fdChannel }
  if !cleared || !t.fdChannel.isDrained then ⟨false, t, discarded⟩
  else
    match connInfo.fd with
    | none => ⟨false, t, discarded⟩
    | some (sink, fd) =>
        let (assigned, fdChannel) := t.fdChannel.assignFd sink fd true true
        ⟨assigned, { t with fdChannel }, discarded⟩

/-- `handle_connect` up to the assignment of the descriptor. -/
def handleConnect (t : TcpConnection) (reconnector : Option (Option ConnectionInfo))
    (readSig : ReadSig) (connInfo : ConnectionInfo) : Option Connecting :=
  match reconnector with
  | none => some ⟨false, t, []⟩
  | some none => some ⟨false, t, []⟩
  | some (some held) =>
      if !held.isValid then some ⟨true, t, []⟩
      else if held.fd.isNone then some ⟨false, t, []⟩
      else if t.isConnected then some ⟨false, t, []⟩
      else
        (drainLoop readSig (t.fdChannel.output.length + 1) { t with emissions := [] }).map
          fun t => t.assign connInfo

/-- `handle_connect` gets as far as the loop. -/
def Proceeds (t : TcpConnection) (reconnector : Option (Option ConnectionInfo)) : Prop :=
  t.isConnected = false ∧
    ∃ held, reconnector = some (some held) ∧ held.isValid = true ∧ held.fd.isSome = true

/-- Bytes are only discarded after an emission that has popped nothing or has failed. -/
def Connecting.ChanceGiven (done : Connecting) : Prop :=
  done.discarded ≠ [] → ∃ e ∈ done.connection.emissions, e.consumed = 0 ∨ e.result = false

variable {t : TcpConnection} {bytes : Nat} {pops : List Nat} {handling : Handling}
  {reconnector : Option (Option ConnectionInfo)} {readSig : ReadSig} {connInfo : ConnectionInfo}

/-- Reading on leaves the output as it is. -/
theorem resume_reading_output (c : FdStreamChannel) (added : Bool) :
    (c.resumeReading added).2.output = c.output := by
  simp only [FdStreamChannel.resumeReading, FdStreamChannel.switchEvents, FdStreamChannel.use]
  split_ifs <;> rfl

/-- A pop of the channel below. -/
theorem fd_channel_pop_front_output (c : FdStreamChannel) (bytes : Nat) :
    (c.popFront bytes true).2.output.length = leftBy c.output.length bytes := by
  rw [FdStreamChannel.popFront]
  by_cases hzero : bytes = 0
  · subst hzero
    rfl
  rw [if_neg hzero]
  by_cases hless : c.output.length < bytes
  · rw [if_pos hless, leftBy, if_neg (Nat.not_le.2 hless)]
  · rw [if_neg hless, resume_reading_output, leftBy, if_pos (Nat.not_lt.1 hless)]
    exact List.length_drop

/-- A pop sets neither flag. -/
theorem pop_front_spec (t : TcpConnection) (bytes : Nat) :
    (t.popFront bytes).2.fdChannel.output.length = leftBy t.fdChannel.output.length bytes ∧
      (t.popFront bytes).2.streamHasPopped = t.streamHasPopped ∧
      (t.hasPopped = false → (t.popFront bytes).2.hasPopped = false) := by
  rw [popFront]
  by_cases hzero : bytes = 0
  · subst hzero
    exact ⟨rfl, rfl, id⟩
  rw [if_neg hzero]
  by_cases hempty : t.isEmpty = true
  · have hnone : t.fdChannel.output.length = 0 := by simpa [isEmpty] using hempty
    rw [if_pos hempty, hnone, leftBy]
    exact ⟨by split_ifs <;> simp, rfl, id⟩
  · rw [if_neg hempty, ← fd_channel_pop_front_output]
    simp only [channelPopFront]
    split
    · exact ⟨rfl, rfl, fun _ => rfl⟩
    · exact ⟨rfl, rfl, id⟩

/-- The pops of handlers set neither flag. -/
theorem pop_spec (t : TcpConnection) (pops : List Nat) :
    (t.pop pops).fdChannel.output.length = leftAfter pops t.fdChannel.output.length ∧
      (t.pop pops).streamHasPopped = t.streamHasPopped ∧
      (t.hasPopped = false → (t.pop pops).hasPopped = false) := by
  induction pops generalizing t with
  | nil => exact ⟨rfl, rfl, id⟩
  | cons bytes pops ih =>
      obtain ⟨hlength, hstream, hpopped⟩ := pop_front_spec t bytes
      obtain ⟨hlength', hstream', hpopped'⟩ := ih (t.popFront bytes).2
      refine ⟨hlength'.trans ?_, hstream'.trans hstream, fun h => hpopped' (hpopped h)⟩
      rw [hlength]
      rfl

/-- `signal_read` emits once, whatever the handlers pop. -/
theorem signal_read_loop_eq (handlers : Nat → Handling) (fuel : Nat) {t : TcpConnection}
    (h : t.isEmpty = false) :
    signalReadLoop handlers (fuel + 1) t =
      some ({ t with streamHasPopped := false }.emit (handlers t.emissions.length)) := by
  have hflag : ({ t with streamHasPopped := false }.emit
      (handlers t.emissions.length)).2.streamHasPopped = false :=
    (pop_spec { t with streamHasPopped := false } _).2.1
  have hresult : ({ t with streamHasPopped := false }.emit (handlers t.emissions.length)).1 =
      (handlers t.emissions.length).result := rfl
  rw [signalReadLoop, if_neg (by simp [h])]
  generalize { t with streamHasPopped := false }.emit (handlers t.emissions.length) = emitted at *
  obtain ⟨result, t'⟩ := emitted
  cases result with
  | false => rfl
  | true =>
      simp only at hflag
      simp [hflag]

/-- The connection after the first emission of `handle_connect`. -/
def afterEmission (t : TcpConnection) (handling : Handling) : TcpConnection :=
  ({ t with emissions := [], hasPopped := false, streamHasPopped := false }.emit handling).2

/-- The loop of `handle_connect` emits once, if there is anything to read and a handler. -/
theorem drain_loop_eq (t : TcpConnection) (readSig : ReadSig) (fuel : Nat) :
    drainLoop readSig (fuel + 1) { t with emissions := [] } =
      some (if t.isEmpty then { t with emissions := [] }
        else
          match readSig with
          | none => { t with emissions := [], hasPopped := false }
          | some handlers => t.afterEmission (handlers 0)) := by
  rw [drainLoop]
  cases hempty : t.isEmpty with
  | true => exact if_pos hempty
  | false =>
      have hempty' : { t with emissions := [], hasPopped := false }.isEmpty = false := hempty
      have hnot : ¬ { t with emissions := [] }.isEmpty = true := fun h =>
        Bool.false_ne_true (hempty.symm.trans h)
      rw [if_neg hnot]
      cases readSig with
      | none => rfl
      | some handlers =>
          have hflag : (t.afterEmission (handlers 0)).hasPopped = false :=
            (pop_spec { t with emissions := [], hasPopped := false, streamHasPopped := false }
              _).2.2 rfl
          have hread : { t with emissions := [], hasPopped := false }.signalRead (some handlers)
              (fuel + 1) = some ((handlers 0).result, t.afterEmission (handlers 0)) :=
            signal_read_loop_eq handlers fuel hempty'
          rw [hread]
          simp [hflag]

/-- The pops of a handler leave no more than there was. -/
theorem left_after_le (pops : List Nat) (available : Nat) :
    leftAfter pops available ≤ available := by
  induction pops generalizing available with
  | nil => exact Nat.le_refl _
  | cons bytes pops ih =>
      have hby : leftBy available bytes ≤ available := by
        unfold leftBy
        split_ifs <;> omega
      exact Nat.le_trans (ih _) hby

/-- If the first emission leaves bytes it has popped nothing or has failed, exactly if the handlers
do not have to be asked again. -/
theorem after_emission_iff (t : TcpConnection) (handling : Handling) :
    ((t.afterEmission handling).fdChannel.output ≠ [] →
        ∃ e ∈ (t.afterEmission handling).emissions, e.consumed = 0 ∨ e.result = false) ↔
      handling.Final t.fdChannel.output.length := by
  have hlength : (t.afterEmission handling).fdChannel.output.length =
      leftAfter handling.pops t.fdChannel.output.length := (pop_spec _ _).1
  have hemissions : (t.afterEmission handling).emissions =
      [⟨t.fdChannel.output.length - (t.afterEmission handling).fdChannel.output.length,
        handling.result⟩] := rfl
  have hle := left_after_le handling.pops t.fdChannel.output.length
  rw [hemissions, hlength, Handling.Final, ← List.length_pos_iff, hlength]
  simp only [List.mem_singleton, exists_eq_left]
  constructor
  · intro h
    by_cases hleft : leftAfter handling.pops t.fdChannel.output.length = 0
    · exact .inr (.inr hleft)
    · rcases h (Nat.pos_of_ne_zero hleft) with hnothing | hfailed
      · exact .inr (.inl (by omega))
      · exact .inl hfailed
  · rintro (hfailed | hsame | hnone) hleft
    · exact .inr hfailed
    · exact .inl (by omega)
    · omega

/-- What an assignment discards is the output of the channel before it. -/
theorem assign_discarded (t : TcpConnection) (connInfo : ConnectionInfo) :
    (t.assign connInfo).discarded = t.fdChannel.output ∧
      (t.assign connInfo).connection.emissions = t.emissions := by
  simp only [assign]
  split_ifs
  · exact ⟨rfl, rfl⟩
  · split <;> exact ⟨rfl, rfl⟩

/-- Where it gets as far as the loop, `handle_connect` discards what is left after it. -/
theorem handle_connect_proceeds (h : t.Proceeds reconnector) (readSig : ReadSig)
    (connInfo : ConnectionInfo) :
    t.handleConnect reconnector readSig connInfo =
      (drainLoop readSig (t.fdChannel.output.length + 1) { t with emissions := [] }).map
        fun t => t.assign connInfo := by
  obtain ⟨hconnected, held, rfl, hvalid, hfd⟩ := h
  simp [handleConnect, hconnected, hvalid, Option.isSome_iff_ne_none.1 hfd]

/-- Where it does not, it discards nothing. -/
theorem handle_connect_not_proceeds (h : ¬ t.Proceeds reconnector) (readSig : ReadSig)
    (connInfo : ConnectionInfo) :
    ∃ done, t.handleConnect reconnector readSig connInfo = some done ∧ done.discarded = [] := by
  match reconnector with
  | none => exact ⟨_, rfl, rfl⟩
  | some none => exact ⟨_, rfl, rfl⟩
  | some (some held) =>
      simp only [handleConnect]
      split_ifs with hvalid hfd hconnected
      · exact ⟨_, rfl, rfl⟩
      · exact ⟨_, rfl, rfl⟩
      · exact ⟨_, rfl, rfl⟩
      · refine absurd ⟨by simpa using hconnected, held, rfl, by simpa using hvalid, ?_⟩ h
        simpa [Option.isSome_iff_ne_none] using hfd

/-- `handle_connect` returns; and it discards bytes only after an emission of the read signal that
has popped nothing or has failed, exactly if it does not get that far, or there is nothing to read,
or there are handlers and they do not have to be asked again after the first emission. -/
theorem handle_connect_spec (t : TcpConnection) (reconnector : Option (Option ConnectionInfo))
    (readSig : ReadSig) (connInfo : ConnectionInfo) :
    ∃ done, t.handleConnect reconnector readSig connInfo = some done ∧
      (done.ChanceGiven ↔ ¬ t.Proceeds reconnector ∨ t.fdChannel.output = [] ∨
        ∃ handlers, readSig = some handlers ∧
          (handlers 0).Final t.fdChannel.output.length) := by
  by_cases hproceeds : t.Proceeds reconnector
  · rw [handle_connect_proceeds hproceeds, drain_loop_eq, Option.map_some]
    refine ⟨_, rfl, ?_⟩
    rw [or_iff_right (fun h => h hproceeds), Connecting.ChanceGiven, (assign_discarded _ _).1,
      (assign_discarded _ _).2]
    by_cases hempty : t.fdChannel.output = []
    · have hempty' : t.isEmpty = true := by simp [isEmpty, hempty]
      rw [if_pos hempty']
      exact iff_of_true (fun h => absurd hempty h) (.inl hempty)
    · have hempty' : ¬ t.isEmpty = true := by simpa [isEmpty] using hempty
      rw [if_neg hempty', or_iff_right hempty]
      cases readSig with
      | none =>
          refine iff_of_false (fun h => ?_) (by simp)
          obtain ⟨e, he, -⟩ := h hempty
          cases he
      | some handlers => simpa using after_emission_iff t (handlers 0)
  · obtain ⟨done, hdone, hdiscarded⟩ := handle_connect_not_proceeds hproceeds readSig connInfo
    exact ⟨done, hdone, iff_of_true (fun h => absurd hdiscarded h) (.inl hproceeds)⟩

/-- The client reads one byte at each emission: of three bytes two are lost. -/
theorem reader_not_asked_again :
    let t : TcpConnection :=
      { fdChannel := { FdStreamChannel.create 8 with output := [1, 2, 3] }
        streamHasPopped := false, hasPopped := false, emissions := [] }
    let connInfo : ConnectionInfo := ⟨true, some (5, 7)⟩
    let readSig : ReadSig := some fun _ => ⟨[1], true⟩
    ∃ done, t.handleConnect (some (some connInfo)) readSig connInfo = some done ∧
      done.success = true ∧ done.connection.emissions = [⟨1, true⟩] ∧ done.discarded = [2, 3] ∧
      ¬ done.ChanceGiven := by
  intro t connInfo readSig
  refine ⟨_, rfl, rfl, rfl, rfl, fun h => ?_⟩
  obtain ⟨e, he, hfinal⟩ := h (by decide)
  obtain rfl := List.mem_singleton.1 he
  exact absurd hfinal (by decide)

end TcpConnection

end Codon.Io
