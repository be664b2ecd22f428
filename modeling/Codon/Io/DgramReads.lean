import Codon.Io.DgramLedger
import Codon.Io.Firewall

/-!
# What becomes of a datagram that was received

The other direction of the ledger: a datagram that a read event commits waits in the read buffer
until a client takes it, until the buffer is thrown away, or until the next one comes where only
the last one is kept. Clients take datagrams in the handlers of read and write events as well
(`reads_accounted`).
-/

namespace Codon.Io

open Codon.Library

/-- Why a datagram leaves the read buffer. -/
inductive ReadFate where
  | popped
  | cleared
  | superseded
deriving DecidableEq

/-- A line of the log of a read buffer. -/
abbrev ReadLine := QueueLine Dgram ReadFate

/-- The bytes that a reading brings. -/
def Reading.body (r : Reading) : List UInt8 := r.received.getD []

namespace FdDgramChannel

variable (c : FdDgramChannel)

/-! ## Logs -/

/-- What calls do to the read buffer. -/
def callReads : FdDgramChannel → Calls → List ReadLine
  | _, .done => []
  | c, .commit addr body fits added next =>
      callReads (c.commitDataframe addr body fits added).2 next
  | c, .pop added next =>
      (c.output.take 1).map (.left .popped) ++ callReads (c.popDgram added).2 next
  | c, .clear added next => c.output.map (.left .cleared) ++ callReads (c.clear added).2 next
  | c, .clearUnwritten space handlers signalled removed next =>
      if c.AsksForData space then
        callReads { c with input := [] } handlers ++
          callReads ((make { c with input := [] } handlers).stopWriting signalled removed).2 next
      else callReads (c.clearQuietly removed).2 next
  | c, .close removed next => callReads (c.channelClose false removed).2 next

/-- What the handlers of these signals do to the read buffer. -/
def emissionReads (emissions : List (FdDgramChannel × Emission)) : List ReadLine :=
  emissions.flatMap fun x => x.1.callReads x.2.calls

/-- The datagram that a reading is committed as: its bytes and, where the descriptor is a socket,
its sender. -/
def readDgram (r : Reading) : Dgram :=
  ⟨if c.isSocket then ⟨r.length, r.head.addr⟩ else {}, r.body⟩

/-- What a pass of the loop of `handle_fd_read` does to the read buffer. -/
def passReads (r : Reading) : List ReadLine :=
  if (c.readPass r).1 = .committed then
    .entered (c.readDgram r) ::
      if c.keepOnlyLastDgram then (c.output.take 1).map (.left .superseded) else []
  else []

/-- What the loop does to the read buffer. -/
def loopReads : FdDgramChannel → List Reading → List ReadLine
  | _, [] => []
  | c, r :: readings =>
      c.passReads r ++
        match c.readPass r with
        | (.again, after) | (.committed, after) =>
            if after.isNonblocking then loopReads after readings else []
        | (.stop, _) | (.fail, _) => []

/-- What `handle_fd_read` does to the read buffer. -/
def eventReads (e : ReadEvent) : List ReadLine :=
  (if e.space < c.reserveLen then c.callReads e.makeRoom.calls else []) ++
    if e.space < c.reserveLen ∧ e.makeRoom.result = false then []
    else
      (c.beforeReading e).loopReads (e.first :: e.readings) ++
        emissionReads ((c.beforeReading e).newDataEmissions e)

/-! ## What a log says -/

variable {c} {c' c'' : FdDgramChannel} {log log' : List ReadLine}
  {dgrams dgrams' : List Dgram}

/-- The log leads from one read buffer to the other, and these datagrams enter. -/
structure Receives (c : FdDgramChannel) (log : List ReadLine) (dgrams : List Dgram)
    (c' : FdDgramChannel) : Prop where
  replays : Replays c.output log c'.output
  received : entries log = dgrams

/-- Where the read buffer stays the same, nothing is logged. -/
theorem Receives.same (h : c'.output = c.output) : Receives c [] [] c' := ⟨h ▸ .nil _, rfl⟩

/-- Logs are continued. -/
theorem Receives.trans (h : Receives c log dgrams c') (h' : Receives c' log' dgrams' c'') :
    Receives c (log ++ log') (dgrams ++ dgrams') c'' where
  replays := h.replays.append h'.replays
  received := by rw [entries_append, h.received, h'.received]

/-- Nothing is read before a step. -/
theorem Receives.then (h : Receives c log [] c') (h' : Receives c' log' dgrams c'') :
    Receives c (log ++ log') dgrams c'' := h.trans h'

/-- The read buffer does not change after a step. -/
theorem Receives.quiet (h : Receives c log dgrams c') (hsame : c''.output = c'.output) :
    Receives c log dgrams c'' := ⟨hsame ▸ h.replays, h.received⟩

/-- The front of the buffer leaves. -/
theorem front_receives (fate : ReadFate) (h : c'.output = c.output.tail) :
    Receives c ((c.output.take 1).map (.left fate)) [] c' := by
  cases houtput : c.output with
  | nil =>
      rw [houtput] at h
      exact .same (h.trans houtput.symm)
  | cons dgram rest =>
      rw [houtput] at h
      refine ⟨?_, rfl⟩
      rw [houtput, h]
      exact .left (.nil rest)

/-- The whole buffer leaves. -/
theorem all_receives (fate : ReadFate) (h : c'.output = []) :
    Receives c (c.output.map (.left fate)) [] c' := by
  exact ⟨h ▸ Replays.all_left fate c.output, entries_all_left ..⟩

/-! ## Calls -/

/-- Asking for events leaves the read buffer. -/
theorem switch_events_output (c : FdDgramChannel) (ev : FdEv) (on taken : Bool) :
    (c.switchEvents ev on taken).output = c.output := by
  unfold switchEvents
  split_ifs <;> rfl

/-- A commit leaves the read buffer. -/
theorem commit_dataframe_output (c : FdDgramChannel) (addr : Option SockHead)
    (body : List UInt8) (fits added : Bool) :
    (c.commitDataframe addr body fits added).2.output = c.output := by
  unfold commitDataframe channelCommitDataframe
  split_ifs
  all_goals first | rfl | exact switch_events_output ..

/-- Resuming to read leaves the read buffer. -/
theorem resume_reading_output (c : FdDgramChannel) (added : Bool) :
    (c.resumeReading added).2.output = c.output := by
  unfold resumeReading
  split_ifs
  · exact switch_events_output ..
  · rfl

/-- The end of writing leaves the read buffer. -/
theorem stop_writing_output (c : FdDgramChannel) (signalled removed : Bool) :
    (c.stopWriting signalled removed).2.output = c.output := by
  unfold stopWriting
  split_ifs
  · rfl
  · exact switch_events_output ..
  · rfl

/-- Closing leaves the read buffer to the clients. -/
theorem channel_close_output (c : FdDgramChannel) (fesClosed removed : Bool) :
    (c.channelClose fesClosed removed).2.output = c.output := by
  have hstop : (c.stopReading fesClosed removed).output = c.output := switch_events_output ..
  unfold channelClose
  split_ifs
  · rfl
  all_goals exact hstop

/-- Clearing what is to be written leaves the read buffer. -/
theorem clear_quietly_output (c : FdDgramChannel) (removed : Bool) :
    (c.clearQuietly removed).2.output = c.output := by
  unfold clearQuietly
  split_ifs
  · rfl
  · exact channel_close_output ..
  · rfl

/-- A datagram is taken from the front. -/
theorem pop_dgram_output (c : FdDgramChannel) (added : Bool) :
    (c.popDgram added).2.output = c.output.tail := by
  unfold popDgram
  split_ifs with hempty
  · rw [List.isEmpty_iff.1 hempty]
    rfl
  · exact resume_reading_output ..

/-- Nothing is left in the read buffer. -/
theorem clear_output (c : FdDgramChannel) (added : Bool) : (c.clear added).2.output = [] := by
  unfold clear
  split_ifs with hempty
  · exact List.isEmpty_iff.1 hempty
  · exact resume_reading_output ..

/-- The log of calls. -/
theorem make_receives (c : FdDgramChannel) (calls : Calls) :
    Receives c (c.callReads calls) [] (c.make calls) := by
  induction calls generalizing c with
  | done => exact .same rfl
  | commit addr body fits added next ih =>
      exact (Receives.same (commit_dataframe_output c addr body fits added)).then (ih _)
  | pop added next ih => exact (front_receives .popped (pop_dgram_output c added)).then (ih _)
  | clear added next ih => exact (all_receives .cleared (clear_output c added)).then (ih _)
  | clearUnwritten space handlers signalled removed next ihandlers ih =>
      simp only [callReads, make]
      split_ifs
      · have hasked := ihandlers { c with input := [] }
        have hstopped := hasked.quiet (stop_writing_output _ signalled removed)
        have hboth := hstopped.then (ih _)
        exact ⟨hboth.replays, hboth.received⟩
      · exact (Receives.same (clear_quietly_output c removed)).then (ih _)
  | close removed next ih =>
      exact (Receives.same (channel_close_output c false removed)).then (ih _)

/-! ## Read events -/

/-- What a datagram that was received does to the read buffer, if it is committed. -/
theorem take_dgram_output (c : FdDgramChannel) (head : SockHead) (r : Reading) :
    (c.takeDgram head r).2.output =
      if (c.takeDgram head r).1 = .committed then
        if c.keepOnlyLastDgram && 1 < (c.output ++ [(⟨head, r.body⟩ : Dgram)]).length then
          (c.output ++ [(⟨head, r.body⟩ : Dgram)]).tail
        else c.output ++ [⟨head, r.body⟩]
      else c.output := by
  unfold takeDgram Reading.body
  cases r.received with
  | none => dsimp only; split_ifs <;> first | rfl | contradiction
  | some body =>
      dsimp only [Option.getD_some]
      by_cases hlong : c.maxOutputDgramLen < body.length
      · simp [hlong]
      · by_cases hempty : ((c.fdType = .nonSocket || c.fdType = .tun) && body.isEmpty) = true
        · simp [hlong, hempty]
        · cases hcommitted : r.committed with
          | false => simp [hlong, hempty]
          | true => simp [hlong, hempty]

/-- Only a pass that commits a datagram does something to the read buffer. -/
theorem read_pass_cases (c : FdDgramChannel) (r : Reading) :
    ((c.readPass r).1 ≠ .committed ∧ (c.readPass r).2.output = c.output) ∨
      c.readPass r =
        c.use.takeDgram (if c.isSocket then ⟨r.length, r.head.addr⟩ else {}) r := by
  unfold readPass
  by_cases hspace : r.space < c.reserveLen
  · rw [if_pos hspace]
    refine .inl ⟨?_, switch_events_output ..⟩
    dsimp only
    split_ifs <;> decide
  · rw [if_neg hspace]
    cases hsocket : c.isSocket with
    | true =>
        simp only [if_true]
        split_ifs
        · exact .inl ⟨by simp, rfl⟩
        · exact .inr rfl
    | false =>
        simp only [Bool.false_eq_true, if_false]
        split_ifs
        · exact .inl ⟨by simp, rfl⟩
        · exact .inr rfl

/-- A pass appends what it commits, and removes what was at the front where only the last datagram
is kept. -/
theorem read_pass_receives (c : FdDgramChannel) (r : Reading) :
    Receives c (c.passReads r) (if (c.readPass r).1 = .committed then [c.readDgram r] else [])
      (c.readPass r).2 := by
  unfold passReads
  rcases read_pass_cases c r with ⟨hkept, hsame⟩ | htake
  · rw [if_neg hkept, if_neg hkept]
    exact .same hsame
  · -- the datagram is committed by `takeDgram`, which does not look at how the pass got there
    have houtput := take_dgram_output c.use (if c.isSocket then ⟨r.length, r.head.addr⟩ else {}) r
    rw [← htake] at houtput
    by_cases hcommitted : (c.readPass r).1 = .committed
    · rw [if_pos hcommitted] at houtput
      rw [if_pos hcommitted, if_pos hcommitted]
      have hentered : Receives c [.entered (c.readDgram r)] [c.readDgram r]
          { c with output := c.output ++ [c.readDgram r] } := ⟨.entered (.nil _), rfl⟩
      change (c.readPass r).2.output = if c.keepOnlyLastDgram &&
        1 < (c.output ++ [c.readDgram r]).length then (c.output ++ [c.readDgram r]).tail
        else c.output ++ [c.readDgram r] at houtput
      cases hkeep : c.keepOnlyLastDgram with
      | false =>
          rw [hkeep] at houtput
          exact hentered.quiet houtput
      | true =>
          rw [hkeep] at houtput
          cases hbuffer : c.output with
          | nil =>
              -- the new datagram is the only one, and stays
              rw [hbuffer] at houtput hentered
              exact hentered.quiet houtput
          | cons dgram rest =>
              rw [hbuffer] at houtput hentered
              have hfront : Receives { c with output := dgram :: rest ++ [c.readDgram r] }
                  [.left .superseded dgram] [] (c.readPass r).2 :=
                front_receives .superseded (houtput.trans (if_pos (by simp)))
              exact hentered.trans hfront
    · rw [if_neg hcommitted] at houtput
      rw [if_neg hcommitted, if_neg hcommitted]
      exact .same houtput

/-- A channel that has not been given another descriptor reads the same datagrams. -/
theorem SameConfig.read_dgram (h : SameConfig c c') : c'.readDgram = c.readDgram := by
  funext r
  rw [readDgram, readDgram, h.is_socket]

/-- What the loop commits is what enters the read buffer. -/
theorem read_loop_receives (c : FdDgramChannel) (dgramsRead readings : List Reading) :
    ∃ committed, (c.readLoop dgramsRead readings).2.1 = dgramsRead ++ committed ∧
      Receives c (c.loopReads readings) (committed.map c.readDgram)
        (c.readLoop dgramsRead readings).2.2 := by
  induction readings generalizing c dgramsRead with
  | nil => exact ⟨[], (List.append_nil _).symm, .same rfl⟩
  | cons r readings ih =>
      have hpass := read_pass_receives c r
      have hconfig := (read_pass_config c r).read_dgram
      simp only [readLoop, loopReads]
      generalize c.readPass r = result at hpass hconfig
      obtain ⟨end_, after⟩ := result
      cases end_ with
      | fail => exact ⟨[], (List.append_nil _).symm, by simpa using hpass⟩
      | stop => exact ⟨[], (List.append_nil _).symm, by simpa using hpass⟩
      | again =>
          simp only
          split_ifs
          · obtain ⟨committed, hread, hrest⟩ := ih after dgramsRead
            rw [hconfig] at hrest
            exact ⟨committed, hread, hpass.then hrest⟩
          · exact ⟨[], (List.append_nil _).symm, by simpa using hpass⟩
      | committed =>
          simp only
          split_ifs
          · obtain ⟨committed, hread, hrest⟩ := ih after (dgramsRead ++ [r])
            rw [hconfig] at hrest
            refine ⟨r :: committed, ?_, hpass.trans hrest⟩
            rw [hread, List.append_assoc]
            rfl
          · exact ⟨[r], rfl, by simpa using hpass⟩

/-- One signal does what its handlers do. -/
theorem emission_reads_one (c : FdDgramChannel) (signal : Emission) :
    emissionReads [(c, signal)] = c.callReads signal.calls := by
  simp [emissionReads]

/-- Signals are emitted one after the other. -/
theorem emission_reads_append (emissions emissions' : List (FdDgramChannel × Emission)) :
    emissionReads (emissions ++ emissions') = emissionReads emissions ++ emissionReads emissions' :=
  List.flatMap_append

/-- The handlers of a signal take datagrams, and none enters. -/
theorem emission_receives (c : FdDgramChannel) (signal : Emission) :
    Receives c (emissionReads [(c, signal)]) [] (c.make signal.calls) := by
  rw [emission_reads_one]
  exact make_receives c signal.calls

/-- A read event commits what it has read. -/
theorem handle_fd_read_receives {event : FdEvent} (hown : c.OwnEvent event) (e : ReadEvent) :
    Receives c (c.eventReads e) ((c.handleFdRead event e).2.1.map c.readDgram)
      (c.handleFdRead event e).2.2 := by
  have hbefore : Receives c (if e.space < c.reserveLen then c.callReads e.makeRoom.calls else [])
      [] (c.beforeReading e) := by
    unfold beforeReading
    split_ifs
    · exact make_receives c _
    · exact .same rfl
  unfold eventReads handleFdRead
  rw [if_neg (not_not.2 hown)]
  by_cases hrefused : e.space < c.reserveLen ∧ e.makeRoom.result = false
  · rw [if_pos hrefused, if_pos hrefused, List.append_nil]
    exact hbefore
  · rw [if_neg hrefused, if_neg hrefused]
    refine hbefore.then ?_
    obtain ⟨committed, hread, hloop⟩ :=
      read_loop_receives (c.beforeReading e) [] (e.first :: e.readings)
    rw [(before_reading_config c e).read_dgram] at hloop
    unfold readAll newDataEmissions
    generalize (c.beforeReading e).readLoop [] (e.first :: e.readings) = result at hread hloop
    obtain ⟨ok, dgramsRead, after⟩ := result
    obtain rfl : dgramsRead = committed := hread
    cases ok with
    | false => simpa [emissionReads] using hloop
    | true =>
        simp only
        split_ifs
        · simpa [emissionReads] using hloop
        · have hboth := hloop.trans (emission_receives after e.newData)
          rwa [List.append_nil] at hboth

/-! ## Write events -/

/-- The end of a pass of writing leaves the read buffer. -/
theorem finish_pass_output (c : FdDgramChannel) (origDgramsAvail : Nat) (w : Writing) :
    (c.finishPass origDgramsAvail w).2.output = c.output := by
  unfold finishPass
  split_ifs
  all_goals first | exact switch_events_output .. | rfl

/-- The handlers of the write signal after a pass take datagrams, and none enters. -/
theorem after_writing_receives (c : FdDgramChannel) (origDgramsAvail : Nat) (w : Writing) :
    Receives c (emissionReads (c.afterEmissions origDgramsAvail w)) []
      (c.afterWriting origDgramsAvail w).2 := by
  unfold afterEmissions afterWriting
  split_ifs
  · exact (emission_receives c w.moreData).quiet (finish_pass_output ..)
  · exact emission_receives c w.moreData
  · exact .same (finish_pass_output ..)

/-- The handlers after a write take datagrams, and none enters. -/
theorem pop_written_receives (c : FdDgramChannel) (origDgramsAvail bodylen : Nat)
    (retval : Option Nat) (w : Writing) :
    Receives c (emissionReads (c.popEmissions origDgramsAvail bodylen retval w)) []
      (c.popWritten origDgramsAvail bodylen retval w).2 := by
  by_cases h : retval = some bodylen ∧ c.input ≠ []
  · have hpopped : (c.popWritten origDgramsAvail bodylen (some bodylen) w).2 =
        ({ c with input := c.input.tail }.afterWriting origDgramsAvail w).2 := by
      simp [popWritten, h.2]
    have hafter := after_writing_receives { c with input := c.input.tail } origDgramsAvail w
    rw [h.1, pop_emissions_of_popped h.2, hpopped]
    exact ⟨hafter.replays, hafter.received⟩
  · rw [pop_emissions_of_kept h, pop_written_kept h]
    exact .same rfl

/-- The signals of a pass come one after the other. -/
theorem write_pass_receives (c : FdDgramChannel) (w : Writing) :
    Receives c (emissionReads (c.passEmissions w)) [] (c.writePass w).2 := by
  unfold passEmissions writePass
  cases hinput : c.input with
  | nil => exact after_writing_receives c 0 w
  | cons dgram rest =>
      by_cases hassigned : c.fdType = .none
      · simp only [hassigned, if_true]
        exact .same rfl
      · simp only [hassigned, if_false]
        cases hreport : c.use.reportedError dgram.body.length w with
        | none =>
            have hpop := pop_written_receives c.use (dgram :: rest).length dgram.body.length
              (c.eatErrors dgram.body.length w) w
            exact ⟨hpop.replays, hpop.received⟩
        | some signal =>
            have hpop := pop_written_receives (c.use.make signal.calls) (dgram :: rest).length
              dgram.body.length (if signal.result then some dgram.body.length else none) w
            have hboth := (make_receives c.use signal.calls).then hpop
            exact ⟨hboth.replays, hboth.received⟩

/-- The handlers of the loop of writing take datagrams, and none enters. -/
theorem write_loop_receives (c : FdDgramChannel) (writings : List Writing) :
    Receives c (emissionReads (c.loopEmissions writings)) [] (c.writeLoop writings).2 := by
  induction writings generalizing c with
  | nil => exact .same rfl
  | cons w writings ih =>
      have hpass := write_pass_receives c w
      simp only [loopEmissions, writeLoop, emission_reads_append]
      generalize c.writePass w = result at hpass
      obtain ⟨end_, after⟩ := result
      cases end_ with
      | fail => simpa [emissionReads] using hpass
      | stop => simpa [emissionReads] using hpass
      | again =>
          simp only
          split_ifs
          · exact hpass.then (ih after)
          · simpa [emissionReads] using hpass
      | committed =>
          simp only
          split_ifs
          · exact hpass.then (ih after)
          · simpa [emissionReads] using hpass

/-- The handlers of a write event take datagrams, and none enters. -/
theorem handle_fd_write_receives (c : FdDgramChannel) (event : FdEvent) (e : WriteEvent) :
    Receives c (emissionReads (c.writeEmissions event e)) [] (c.handleFdWrite event e).2 := by
  have hbefore : Receives c
      (emissionReads (if c.Starved then [({ c with handlingWrite := true }, e.askForData)] else []))
      [] (c.beforeWriting e) := by
    have hstarved : ({ c with handlingWrite := true } : FdDgramChannel).Starved ↔ c.Starved :=
      Iff.rfl
    unfold beforeWriting
    simp only [hstarved]
    split_ifs
    · have hasked := emission_receives { c with handlingWrite := true } e.askForData
      exact ⟨hasked.replays, hasked.received⟩
    · exact .same rfl
  unfold writeEmissions handleFdWrite
  cases hhandling : c.handlingWrite with
  | true => exact .same rfl
  | false =>
      simp only [Bool.false_eq_true, if_false]
      by_cases hown : c.OwnEvent event
      · rw [if_neg (not_not.2 hown), if_neg (not_not.2 hown), emission_reads_append]
        by_cases hasked : c.Starved ∧ e.askForData.result = false
        · simp only [if_pos hasked]
          exact hbefore.then (.same rfl)
        · simp only [if_neg hasked]
          exact hbefore.then ((write_loop_receives _ _).quiet rfl)
      · rw [if_pos hown, if_pos hown]
        exact .same rfl

/-! ## Runs -/

/-- What a step does to the read buffer. -/
def stepReads (c : FdDgramChannel) : DgramOp → List ReadLine
  | .assign .. | .set .. => []
  | .calls calls => c.callReads calls
  | .read e _ => if c.fes.isSome then c.eventReads e else []
  | .write e _ =>
    match c.fes with
    | none => []
    | some s => emissionReads (c.writeEmissions ⟨s.sink, s.fd⟩ e)

/-- The datagrams that a step receives and commits, with their senders. -/
def stepReceived (c : FdDgramChannel) : DgramOp → List Dgram
  | .read e _ =>
    match c.fes with
    | none => []
    | some s => (c.handleFdRead ⟨s.sink, s.fd⟩ e).2.1.map c.readDgram
  | .assign .. | .set .. | .calls _ | .write _ _ => []

/-- A sink that closes leaves the read buffer as it is. -/
theorem fail_output (ok : Bool) (after : FdDgramChannel) (removed : Bool) :
    (if ok then after else (after.channelClose true removed).2).output = after.output :=
  match ok with
  | true => rfl
  | false => channel_close_output after true removed

/-- Every step of a channel. -/
theorem step_receives (c : FdDgramChannel) (op : DgramOp) :
    Receives c (c.stepReads op) (c.stepReceived op) (c.dgramStep op) := by
  cases op with
  | assign sink fd fdType isNonblocking reads writes =>
      refine .same ?_
      show (c.assignFd sink fd fdType isNonblocking reads writes).2.output = c.output
      unfold assignFd
      split_ifs <;> rfl
  | set isLowLatency ignoreWriteErrors keepOnlyLastDgram => exact .same rfl
  | calls calls => exact make_receives c calls
  | read e removed =>
      unfold stepReads stepReceived dgramStep
      cases hs : c.fes with
      | none => exact .same rfl
      | some s =>
          have hown : c.OwnEvent ⟨s.sink, s.fd⟩ := ⟨s, hs, rfl, rfl⟩
          exact (handle_fd_read_receives hown e).quiet (fail_output _ _ removed)
  | write e removed =>
      unfold stepReads stepReceived dgramStep
      cases hs : c.fes with
      | none => exact .same rfl
      | some s =>
          exact (handle_fd_write_receives c ⟨s.sink, s.fd⟩ e).quiet
            (fail_output (c.handleFdWrite ⟨s.sink, s.fd⟩ e).1 _ removed)

/-- Every run of a channel. -/
theorem run_receives (c : FdDgramChannel) (ops : List DgramOp) :
    Receives c (history dgramStep stepReads c ops) (history dgramStep stepReceived c ops)
      (run dgramStep c ops) := by
  induction ops generalizing c with
  | nil => exact .same rfl
  | cons op ops ih => exact (step_receives c op).trans (ih (c.dgramStep op))

/-- In every run of a channel, the datagrams that entered the read buffer are those that left it and
then those that wait in it, in order, and they are those that were received and committed, with
their senders. -/
theorem reads_accounted (maxInputDgramLen maxOutputDgramLen : Nat) (ops : List DgramOp) :
    let start := createWith maxInputDgramLen maxOutputDgramLen
    let log := history dgramStep stepReads start ops
    let received := history dgramStep stepReceived start ops
    let waiting := (run dgramStep start ops).output
    entries log = (departures log).map Prod.snd ++ waiting ∧
      entries log = received := by
  intro start log received waiting
  have hreceives : Receives start log received (run dgramStep start ops) := run_receives start ops
  exact ⟨hreceives.replays.balance, hreceives.received⟩

end FdDgramChannel

end Codon.Io
