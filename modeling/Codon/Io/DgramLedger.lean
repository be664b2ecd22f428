import Codon.Io.LowLatency
import Codon.Library.History
import Codon.Library.QueueLog

/-!
# What becomes of a datagram

A datagram that a client commits waits in the write buffer until it leaves at the front: because
the kernel took it, because an error of a write was ignored, or because the buffer was thrown away.
The log of a channel notes this, also where handlers that are called on the way commit, clear and
close. `dgrams_accounted` balances the log in every state of every run, and with what the kernel
took: no datagram is lost without a reason, none is written twice, and none overtakes another.
-/

namespace Codon.Io

open Codon.Library

/-- Why a datagram leaves the write buffer. -/
inductive DgramFate where
  | written
  | ignored
  | cleared
deriving DecidableEq

/-- A line of the log of a write buffer. -/
abbrev DgramLine := QueueLine Dgram DgramFate

/-- The datagrams that leave because they were written. -/
def writtenIn (log : List DgramLine) : List Dgram :=
  ((departures log).filter fun x => x.1 = .written).map Prod.snd

@[simp] theorem written_in_nil : writtenIn [] = [] := rfl

@[simp] theorem written_in_append (log log' : List DgramLine) :
    writtenIn (log ++ log') = writtenIn log ++ writtenIn log' := by
  simp [writtenIn]

namespace FdDgramChannel

variable (c : FdDgramChannel)

/-! ## Logs -/

/-- A commit of this datagram gets to the write buffer. -/
def Takes (addr : Option SockHead) (body : List UInt8) (fits : Bool) : Prop :=
  c.isClosed = false ∧ (∀ head ∈ addr, head.length ≠ 0 ∧ head.length ≤ sizeofSafeSockaddr) ∧
    (c.fdType = .uconnSocket ↔ addr.isSome = true) ∧ body.length ≤ c.maxInputDgramLen ∧
    c.canWrite = true ∧ fits = true

instance (addr : Option SockHead) (body : List UInt8) (fits : Bool) :
    Decidable (c.Takes addr body fits) := inferInstanceAs (Decidable (_ ∧ _))

/-- The write buffer is thrown away. -/
def clearLog : List DgramLine := c.input.map (.left .cleared)

/-- What `channel_close` throws away. -/
def closeLog (fesClosed : Bool) : List DgramLine :=
  if c.fes.isNone || fesClosed then c.clearLog else []

/-- What calls do to the write buffer. -/
def callLog : FdDgramChannel → Calls → List DgramLine
  | _, .done => []
  | c, .commit addr body fits added next =>
      (if c.Takes addr body fits then [.entered ⟨addr.getD {}, body⟩] else []) ++
        callLog (c.commitDataframe addr body fits added).2 next
  | c, .pop added next => callLog (c.popDgram added).2 next
  | c, .clear added next => callLog (c.clear added).2 next
  | c, .clearUnwritten space handlers signalled removed next =>
      c.clearLog ++
        if c.AsksForData space then
          callLog { c with input := [] } handlers ++
            callLog ((make { c with input := [] } handlers).stopWriting signalled removed).2 next
        else callLog (c.clearQuietly removed).2 next
  | c, .close removed next =>
      c.closeLog false ++ callLog (c.channelClose false removed).2 next

/-- What the write signal after a pass does to the write buffer. -/
def afterLog (origDgramsAvail : Nat) (w : Writing) : List DgramLine :=
  if c.MadeRoom origDgramsAvail then c.callLog w.moreData.calls else []

/-- What a pass does to the write buffer from where the datagram has been handed to the kernel. It
removes what is at the front then. -/
def popLog (origDgramsAvail bodylen : Nat) (retval : Option Nat) (fate : DgramFate) (w : Writing) :
    List DgramLine :=
  match c.input with
  | [] => []
  | dgram :: rest =>
      if retval = some bodylen then
        .left fate dgram :: { c with input := rest }.afterLog origDgramsAvail w
      else []

/-- What a pass of the loop of `handle_fd_write` does to the write buffer. -/
def passLog (w : Writing) : List DgramLine :=
  match c.input with
  | [] => c.afterLog 0 w
  | dgram :: _ =>
      if c.fdType = .none then []
      else
        match c.use.reportedError dgram.body.length w with
        | none => c.use.popLog c.input.length dgram.body.length (c.eatErrors dgram.body.length w)
            (if w.written.isSome then .written else .ignored) w
        | some signal =>
            c.use.callLog signal.calls ++ (c.use.make signal.calls).popLog c.input.length
              dgram.body.length (if signal.result then some dgram.body.length else none) .ignored w

/-- What the loop does to the write buffer. -/
def loopLog : FdDgramChannel → List Writing → List DgramLine
  | _, [] => []
  | c, w :: writings =>
      c.passLog w ++
        match c.writePass w with
        | (.again, after) | (.committed, after) =>
            if after.isNonblocking && !after.isLowLatency then loopLog after writings else []
        | (.stop, _) | (.fail, _) => []

/-- What `handle_fd_write` does to the write buffer. It does nothing while it runs already. -/
def writeLog (e : WriteEvent) : List DgramLine :=
  if c.handlingWrite then []
  else
    (if c.Starved then { c with handlingWrite := true }.callLog e.askForData.calls else []) ++
      if c.GivesUp e then [] else (c.beforeWriting e).loopLog (e.first :: e.writings)

/-- What `handle_fd_read` does to the write buffer, by the handlers of its signals. -/
def readLog (e : ReadEvent) : List DgramLine :=
  (if e.space < c.reserveLen then c.callLog e.makeRoom.calls else []) ++
    if e.space < c.reserveLen ∧ e.makeRoom.result = false then []
    else
      match (c.beforeReading e).readLoop [] (e.first :: e.readings) with
      | (false, _, _) => []
      | (true, dgramsRead, after) =>
          if dgramsRead.isEmpty then [] else after.callLog e.newData.calls

/-! ## What the kernel takes -/

/-- The datagrams that the kernel takes in a pass. -/
def passTaken (w : Writing) : List Dgram :=
  c.passWrites.filter fun dgram => w.written = some dgram.body.length

/-- The datagrams that the kernel takes in the loop. -/
def loopTaken : FdDgramChannel → List Writing → List Dgram
  | _, [] => []
  | c, w :: writings =>
      c.passTaken w ++
        match c.writePass w with
        | (.again, after) | (.committed, after) =>
            if after.isNonblocking && !after.isLowLatency then loopTaken after writings else []
        | (.stop, _) | (.fail, _) => []

/-- The datagrams that the kernel takes in a write event. -/
def eventTaken (e : WriteEvent) : List Dgram :=
  if c.handlingWrite ∨ c.GivesUp e then []
  else (c.beforeWriting e).loopTaken (e.first :: e.writings)

/-! ## What a log says -/

variable {c} {c' c'' : FdDgramChannel} {log log' : List DgramLine} {taken taken' : List Dgram}

/-- The log leads from one write buffer to the other, and these datagrams were written on the way.
-/
structure Logs (c : FdDgramChannel) (log : List DgramLine) (taken : List Dgram)
    (c' : FdDgramChannel) : Prop where
  replays : Replays c.input log c'.input
  written : writtenIn log = taken

/-- Where the write buffer stays the same, nothing is logged. -/
theorem Logs.same (h : c'.input = c.input) : Logs c [] [] c' := ⟨h ▸ .nil _, rfl⟩

/-- Logs are continued. -/
theorem Logs.trans (h : Logs c log taken c') (h' : Logs c' log' taken' c'') :
    Logs c (log ++ log') (taken ++ taken') c'' where
  replays := h.replays.append h'.replays
  written := by rw [written_in_append, h.written, h'.written]

/-- Nothing is written before a step. -/
theorem Logs.then (h : Logs c log [] c') (h' : Logs c' log' taken c'') :
    Logs c (log ++ log') taken c'' := h.trans h'

/-- The write buffer does not change after a step. -/
theorem Logs.quiet (h : Logs c log taken c') (hsame : c''.input = c'.input) :
    Logs c log taken c'' := ⟨hsame ▸ h.replays, h.written⟩

/-- Everything leaves when the buffer is thrown away. -/
theorem clear_logs (h : c'.input = []) : Logs c c.clearLog [] c' := by
  refine ⟨h ▸ Replays.all_left _ c.input, ?_⟩
  simp [writtenIn, clearLog, departures_all_left]

/-! ## Calls -/

/-- Which addresses a commit takes. -/
theorem address_taken_iff (addr : Option SockHead) :
    (addr.any fun head => head.length = 0 || sizeofSafeSockaddr < head.length) = false ↔
      ∀ head ∈ addr, head.length ≠ 0 ∧ head.length ≤ sizeofSafeSockaddr := by
  cases addr with
  | none => simp
  | some head => simp

/-- A commit appends the datagram to the write buffer if it gets there. -/
theorem commit_dataframe_input (c : FdDgramChannel) (addr : Option SockHead) (body : List UInt8)
    (fits added : Bool) : (c.commitDataframe addr body fits added).2.input =
      c.input ++ if c.Takes addr body fits then [⟨addr.getD {}, body⟩] else [] := by
  by_cases htakes : c.Takes addr body fits
  · obtain ⟨hopen, haddr, htype, hlength, hwrite, hfits⟩ := htakes
    rw [if_pos ⟨hopen, haddr, htype, hlength, hwrite, hfits⟩]
    unfold commitDataframe
    rw [if_neg (by simp [hopen]), if_neg (by simp [(address_taken_iff addr).2 haddr]),
      if_neg (not_not.2 (propext htype)), if_neg (Nat.not_lt.2 hlength)]
    unfold channelCommitDataframe
    rw [if_neg (by simp [hwrite, hfits])]
    split_ifs
    · rfl
    · exact switch_events_input ..
  · -- each check that refuses the datagram is one that `Takes` has, so only the last branch is left
    rw [if_neg htakes, List.append_nil]
    unfold commitDataframe channelCommitDataframe
    split_ifs with hclosed haddr htype hlength hrefused
    all_goals first | rfl | skip
    all_goals
      refine absurd ⟨by simpa using hclosed, ?_, ?_, Nat.not_lt.1 hlength, ?_⟩ htakes
      · exact (address_taken_iff addr).1 (by simpa using haddr)
      · exact iff_of_eq (not_not.1 htype)
      · simpa using hrefused

/-- Resuming to read leaves the write buffer. -/
theorem resume_reading_input (c : FdDgramChannel) (added : Bool) :
    (c.resumeReading added).2.input = c.input := by
  unfold resumeReading
  split_ifs
  · exact switch_events_input ..
  · rfl

/-- Taking a datagram leaves the write buffer. -/
theorem pop_dgram_input (c : FdDgramChannel) (added : Bool) :
    (c.popDgram added).2.input = c.input := by
  unfold popDgram
  split_ifs
  · rfl
  · exact resume_reading_input ..

/-- Dropping what was read leaves the write buffer. -/
theorem clear_input (c : FdDgramChannel) (added : Bool) : (c.clear added).2.input = c.input := by
  unfold clear
  split_ifs
  · rfl
  · exact resume_reading_input ..

/-- The end of writing leaves the write buffer. -/
theorem stop_writing_input (c : FdDgramChannel) (signalled removed : Bool) :
    (c.stopWriting signalled removed).2.input = c.input := by
  unfold stopWriting
  split_ifs
  · rfl
  · exact switch_events_input ..
  · rfl

/-- The write buffer is thrown away where there is no sink or the sink is closed. -/
theorem channel_close_input (c : FdDgramChannel) (fesClosed removed : Bool) :
    (c.channelClose fesClosed removed).2.input =
      if c.fes.isNone || fesClosed then [] else c.input := by
  have hstop : (c.stopReading fesClosed removed).input = if fesClosed then [] else c.input :=
    switch_events_input ..
  unfold channelClose
  cases hnone : c.fes.isNone with
  | true => rfl
  | false =>
      simp only [Bool.false_or, Bool.false_eq_true, if_false]
      split_ifs at hstop ⊢
      all_goals exact hstop

/-- Closing a channel throws its write buffer away, or leaves it. -/
theorem channel_close_logs (c : FdDgramChannel) (fesClosed removed : Bool) :
    Logs c (c.closeLog fesClosed) [] (c.channelClose fesClosed removed).2 := by
  have hinput := channel_close_input c fesClosed removed
  unfold closeLog
  split_ifs at hinput ⊢
  · exact clear_logs hinput
  · exact .same hinput

/-- Clearing without asking for data leaves nothing to write. -/
theorem clear_quietly_input (c : FdDgramChannel) (removed : Bool) :
    (c.clearQuietly removed).2.input = [] := by
  unfold clearQuietly
  split_ifs with hempty
  · exact List.isEmpty_iff.1 hempty
  · rw [channel_close_input]
    exact ite_self _
  · rfl

/-- The log of calls, of which none writes. -/
theorem make_logs (c : FdDgramChannel) (calls : Calls) :
    Logs c (c.callLog calls) [] (c.make calls) := by
  induction calls generalizing c with
  | done => exact .same rfl
  | commit addr body fits added next ih =>
      have hinput := commit_dataframe_input c addr body fits added
      refine Logs.then ?_ (ih _)
      split_ifs at hinput ⊢
      · exact ⟨.entered (hinput ▸ .nil _), rfl⟩
      · exact .same (hinput.trans (List.append_nil _))
  | pop added next ih => exact Logs.then (.same (pop_dgram_input c added)) (ih _)
  | clear added next ih => exact Logs.then (.same (clear_input c added)) (ih _)
  | clearUnwritten space handlers signalled removed next ihandlers ih =>
      simp only [callLog, make]
      split_ifs
      · have hasked := (ihandlers { c with input := [] }).quiet
          (stop_writing_input _ signalled removed)
        exact (clear_logs rfl).then (hasked.then (ih _))
      · exact (clear_logs (clear_quietly_input c removed)).then (ih _)
  | close removed next ih => exact (channel_close_logs c false removed).then (ih _)

/-! ## Events -/

/-- The end of a pass leaves the write buffer. -/
theorem finish_pass_input (c : FdDgramChannel) (origDgramsAvail : Nat) (w : Writing) :
    (c.finishPass origDgramsAvail w).2.input = c.input := by
  unfold finishPass
  split_ifs
  all_goals first | exact switch_events_input .. | rfl

/-- The handlers of the write signal after a pass are logged. -/
theorem after_writing_logs (c : FdDgramChannel) (origDgramsAvail : Nat) (w : Writing) :
    Logs c (c.afterLog origDgramsAvail w) [] (c.afterWriting origDgramsAvail w).2 := by
  unfold afterLog afterWriting
  split_ifs
  · exact (make_logs c _).quiet (finish_pass_input ..)
  · exact make_logs c _
  · exact .same (finish_pass_input ..)

/-- Where the datagram at the front is not popped, nothing changes. -/
theorem pop_written_kept {retval : Option Nat} {bodylen : Nat}
    (h : ¬(retval = some bodylen ∧ c.input ≠ [])) (origDgramsAvail : Nat) (w : Writing) :
    (c.popWritten origDgramsAvail bodylen retval w).2 = c := by
  unfold popWritten
  split
  · split_ifs
    all_goals rfl
  · split_ifs with hpartial hempty
    · rfl
    · rfl
    · exact absurd ⟨congrArg some (not_not.1 hpartial), by simpa using hempty⟩ h

/-- What is removed after a write is what is at the front. -/
theorem pop_written_logs (c : FdDgramChannel) (origDgramsAvail bodylen : Nat)
    (retval : Option Nat) (fate : DgramFate) (w : Writing) :
    Logs c (c.popLog origDgramsAvail bodylen retval fate w)
      (if retval = some bodylen ∧ fate = .written then c.input.take 1 else [])
      (c.popWritten origDgramsAvail bodylen retval w).2 := by
  cases hinput : c.input with
  | nil =>
      rw [pop_written_kept (by simp [hinput])]
      simp only [popLog, hinput, List.take_nil, ite_self]
      exact .same rfl
  | cons dgram rest =>
      by_cases hretval : retval = some bodylen
      · have hpopped : (c.popWritten origDgramsAvail bodylen retval w).2 =
            ({ c with input := rest }.afterWriting origDgramsAvail w).2 := by
          simp [popWritten, hretval, hinput]
        have hlog : c.popLog origDgramsAvail bodylen retval fate w =
            [.left fate dgram] ++ { c with input := rest }.afterLog origDgramsAvail w := by
          simp [popLog, hinput, hretval]
        have hleft : Logs c [.left fate dgram]
            (if retval = some bodylen ∧ fate = .written then [dgram] else [])
            { c with input := rest } := by
          refine ⟨hinput ▸ .left (.nil rest), ?_⟩
          cases fate <;> simp [writtenIn, hretval]
        have hboth := hleft.trans (after_writing_logs { c with input := rest } origDgramsAvail w)
        rwa [← hlog, ← hpopped, List.append_nil] at hboth
      · rw [pop_written_kept (fun h => hretval h.1)]
        simp only [popLog, hinput, hretval, false_and, if_false]
        exact .same rfl

/-- An error that is not ignored has written nothing. -/
theorem written_none_of_eaten {bodylen : Nat} {w : Writing}
    (h : c.eatErrors bodylen w = none) : w.written = none := by
  unfold eatErrors at h
  split_ifs at h
  exact h

/-- Where the kernel took bytes there is no error. -/
theorem eat_errors_of_written {bodylen n : Nat} {w : Writing} (h : w.written = some n) :
    c.eatErrors bodylen w = some n := by
  unfold eatErrors
  rw [if_neg (by simp [h])]
  exact h

/-- What the kernel takes in a pass is what the pass removes as written. -/
theorem write_pass_logs (c : FdDgramChannel) (w : Writing) :
    Logs c (c.passLog w) (c.passTaken w) (c.writePass w).2 := by
  unfold passLog passTaken passWrites writePass
  cases hinput : c.input with
  | nil =>
      have hafter := after_writing_logs c 0 w
      simpa using hafter
  | cons dgram rest =>
      by_cases hassigned : c.fdType = .none
      · simp only [hassigned, if_true, List.filter_nil]
        exact .same rfl
      · have huse : c.use.input = dgram :: rest := hinput
        simp only [hassigned, if_false, List.take_succ_cons, List.take_zero]
        cases hreport : c.use.reportedError dgram.body.length w with
        | none =>
            -- no handler has run since the write, so what is removed is what was written
            have hpop := pop_written_logs c.use (dgram :: rest).length dgram.body.length
              (c.eatErrors dgram.body.length w)
              (if w.written.isSome then .written else .ignored) w
            rw [huse] at hpop
            refine ⟨hpop.replays, hpop.written.trans ?_⟩
            cases hwritten : w.written with
            | none => simp
            | some n =>
                rw [eat_errors_of_written hwritten]
                by_cases hwhole : n = dgram.body.length
                · simp [hwhole]
                · simp [hwhole]
        | some signal =>
            -- the handlers may have changed what is at the front, but nothing was written
            have heaten : c.use.eatErrors dgram.body.length w = none := by
              unfold reportedError at hreport
              split_ifs at hreport with hfailed
              exact Option.isNone_iff_eq_none.1 hfailed
            have hlost : w.written = none := written_none_of_eaten heaten
            have hpop := pop_written_logs (c.use.make signal.calls) (dgram :: rest).length
              dgram.body.length (if signal.result then some dgram.body.length else none) .ignored w
            have hboth := (make_logs c.use signal.calls).then hpop
            refine ⟨hboth.replays, hboth.written.trans ?_⟩
            simp [hlost]

/-- The loop of writing is logged. -/
theorem write_loop_logs (c : FdDgramChannel) (writings : List Writing) :
    Logs c (c.loopLog writings) (c.loopTaken writings) (c.writeLoop writings).2 := by
  induction writings generalizing c with
  | nil => exact .same rfl
  | cons w writings ih =>
      have hpass := write_pass_logs c w
      simp only [loopLog, loopTaken, writeLoop]
      generalize c.writePass w = result at hpass
      obtain ⟨end_, after⟩ := result
      cases end_ with
      | fail => simpa using hpass
      | stop => simpa using hpass
      | again =>
          simp only
          split_ifs
          · exact hpass.trans (ih after)
          · simpa using hpass
      | committed =>
          simp only
          split_ifs
          · exact hpass.trans (ih after)
          · simpa using hpass

/-- The handlers of the write signal before the loop are logged. -/
theorem before_writing_logs (c : FdDgramChannel) (e : WriteEvent) :
    Logs c (if c.Starved then { c with handlingWrite := true }.callLog e.askForData.calls else [])
      [] (c.beforeWriting e) := by
  have hstarved : ({ c with handlingWrite := true } : FdDgramChannel).Starved ↔ c.Starved := Iff.rfl
  unfold beforeWriting
  simp only [hstarved]
  split_ifs
  · have hasked := make_logs { c with handlingWrite := true } e.askForData.calls
    exact ⟨hasked.replays, hasked.written⟩
  · exact .same rfl

/-- A write event is logged. -/
theorem handle_fd_write_logs {event : FdEvent} (hown : c.OwnEvent event) (e : WriteEvent) :
    Logs c (c.writeLog e) (c.eventTaken e) (c.handleFdWrite event e).2 := by
  have hbefore := before_writing_logs c e
  unfold writeLog eventTaken handleFdWrite
  cases hhandling : c.handlingWrite with
  | true =>
      simp only [true_or, if_true]
      exact .same rfl
  | false =>
      simp only [Bool.false_eq_true, false_or, if_false, not_not.2 hown]
      by_cases hgives : c.GivesUp e
      · have hasked : c.Starved ∧ e.askForData.result = false := hgives
        simp only [if_pos hgives, if_pos hasked, List.append_nil]
        exact hbefore.quiet rfl
      · have hasked : ¬(c.Starved ∧ e.askForData.result = false) := hgives
        simp only [if_neg hgives, if_neg hasked]
        exact (hbefore.then (write_loop_logs _ _)).quiet rfl

/-- Reading a datagram leaves the write buffer. -/
theorem take_dgram_input (c : FdDgramChannel) (head : SockHead) (r : Reading) :
    (c.takeDgram head r).2.input = c.input := by
  unfold takeDgram
  split
  · rfl
  · split_ifs <;> rfl

/-- Reading leaves the write buffer alone. -/
theorem read_pass_input (c : FdDgramChannel) (r : Reading) :
    (c.readPass r).2.input = c.input := by
  unfold readPass
  by_cases hspace : r.space < c.reserveLen
  · rw [if_pos hspace]
    exact switch_events_input ..
  · rw [if_neg hspace]
    split_ifs
    · rfl
    · exact take_dgram_input c.use _ r
    · rfl
    · exact take_dgram_input c.use _ r

/-- A read event is logged, by the handlers of its signals. -/
theorem handle_fd_read_logs {event : FdEvent} (hown : c.OwnEvent event) (e : ReadEvent) :
    Logs c (c.readLog e) [] (c.handleFdRead event e).2.2 := by
  have hbefore : Logs c (if e.space < c.reserveLen then c.callLog e.makeRoom.calls else []) []
      (c.beforeReading e) := by
    unfold beforeReading
    split_ifs
    · exact make_logs c _
    · exact .same rfl
  have hloop := read_loop_induction (R := fun c c' => c'.input = c.input) (fun _ => rfl)
    (fun h h' => h'.trans h) read_pass_input (c.beforeReading e) [] (e.first :: e.readings)
  unfold readLog handleFdRead readAll
  rw [if_neg (not_not.2 hown)]
  by_cases hrefused : e.space < c.reserveLen ∧ e.makeRoom.result = false
  · rw [if_pos hrefused, if_pos hrefused, List.append_nil]
    exact hbefore
  · rw [if_neg hrefused, if_neg hrefused]
    refine hbefore.then ?_
    generalize (c.beforeReading e).readLoop [] (e.first :: e.readings) = result at hloop
    obtain ⟨ok, dgramsRead, after⟩ := result
    cases ok with
    | false => exact .same hloop
    | true =>
        simp only
        split_ifs
        · exact .same hloop
        · exact (Logs.same hloop).then (make_logs after _)

/-! ## Runs -/

end FdDgramChannel

/-- What happens to a channel: it is assigned a descriptor, its three settings are set, calls of
clients, or an event, whose sink closes if the handler fails. -/
inductive DgramOp where
  | assign (sink fd : Nat) (fdType : DgramFdType) (isNonblocking reads writes : Bool)
  | set (isLowLatency ignoreWriteErrors keepOnlyLastDgram : Bool)
  | calls (calls : Calls)
  | read (e : ReadEvent) (removed : Bool)
  | write (e : WriteEvent) (removed : Bool)

namespace FdDgramChannel

/-- A new channel with a limit for each direction. -/
def createWith (maxInputDgramLen maxOutputDgramLen : Nat) : FdDgramChannel :=
  { create maxInputDgramLen with maxOutputDgramLen }

variable (c : FdDgramChannel)

/-- The sink of the channel dispatches a read event. -/
def dispatchRead (s : FdEventSink) (e : ReadEvent) (removed : Bool) : FdDgramChannel :=
  let (ok, _, after) := c.handleFdRead ⟨s.sink, s.fd⟩ e
  if ok then after else (after.channelClose true removed).2

/-- One step. Without a sink there are no events. -/
def dgramStep : DgramOp → FdDgramChannel
  | .assign sink fd fdType isNonblocking reads writes =>
      (c.assignFd sink fd fdType isNonblocking reads writes).2
  | .set isLowLatency ignoreWriteErrors keepOnlyLastDgram =>
      { c with isLowLatency, ignoreWriteErrors, keepOnlyLastDgram }
  | .calls calls => c.make calls
  | .read e removed =>
    match c.fes with
    | none => c
    | some s => c.dispatchRead s e removed
  | .write e removed =>
    match c.fes with
    | none => c
    | some s => c.dispatchWrite s e removed

/-- What is thrown away where the handler of an event has failed. -/
def failLog (ok : Bool) (after : FdDgramChannel) : List DgramLine :=
  if ok then [] else after.closeLog true

/-- What a step does to the write buffer. -/
def stepLog : DgramOp → List DgramLine
  | .assign .. | .set .. => []
  | .calls calls => c.callLog calls
  | .read e _ =>
    match c.fes with
    | none => []
    | some s =>
        let (ok, _, after) := c.handleFdRead ⟨s.sink, s.fd⟩ e
        c.readLog e ++ failLog ok after
  | .write e _ =>
    match c.fes with
    | none => []
    | some s =>
        let (ok, after) := c.handleFdWrite ⟨s.sink, s.fd⟩ e
        c.writeLog e ++ failLog ok after

/-- What the kernel takes in a step. -/
def stepTaken : DgramOp → List Dgram
  | .write e _ => if c.fes.isSome then c.eventTaken e else []
  | .assign .. | .set .. | .calls _ | .read _ _ => []

variable {c}

/-- What is thrown away after a failure is logged. -/
theorem fail_logs (ok : Bool) (after : FdDgramChannel) (removed : Bool) :
    Logs after (failLog ok after) [] (if ok then after else (after.channelClose true removed).2) :=
  match ok with
  | true => .same rfl
  | false => channel_close_logs after true removed

/-- Every step of a channel. -/
theorem step_logs (c : FdDgramChannel) (op : DgramOp) :
    Logs c (c.stepLog op) (c.stepTaken op) (c.dgramStep op) := by
  cases op with
  | assign sink fd fdType isNonblocking reads writes =>
      refine .same ?_
      show (c.assignFd sink fd fdType isNonblocking reads writes).2.input = c.input
      unfold assignFd
      split_ifs <;> rfl
  | set isLowLatency ignoreWriteErrors keepOnlyLastDgram => exact .same rfl
  | calls calls => exact make_logs c calls
  | read e removed =>
      unfold stepLog stepTaken dgramStep
      cases hs : c.fes with
      | none => exact .same rfl
      | some s =>
          have hown : c.OwnEvent ⟨s.sink, s.fd⟩ := ⟨s, hs, rfl, rfl⟩
          exact (handle_fd_read_logs hown e).then (fail_logs _ _ removed)
  | write e removed =>
      unfold stepLog stepTaken dgramStep
      cases hs : c.fes with
      | none => exact .same rfl
      | some s =>
          have hown : c.OwnEvent ⟨s.sink, s.fd⟩ := ⟨s, hs, rfl, rfl⟩
          have hboth := (handle_fd_write_logs hown e).trans
            (fail_logs (c.handleFdWrite ⟨s.sink, s.fd⟩ e).1 _ removed)
          rw [List.append_nil] at hboth
          exact hboth

/-- Every run of a channel. -/
theorem run_logs (c : FdDgramChannel) (ops : List DgramOp) :
    Logs c (history dgramStep stepLog c ops) (history dgramStep stepTaken c ops)
      (run dgramStep c ops) := by
  induction ops generalizing c with
  | nil => exact .same rfl
  | cons op ops ih => exact (step_logs c op).trans (ih (c.dgramStep op))

/-- In every run of a channel, the datagrams that were buffered are those that left the write buffer
and then those that wait in it, in order, and those that left because they were written are those
that the kernel took. Where none left for another reason, what the kernel took and what waits is all
that was buffered. -/
theorem dgrams_accounted (maxInputDgramLen maxOutputDgramLen : Nat) (ops : List DgramOp) :
    let start := createWith maxInputDgramLen maxOutputDgramLen
    let log := history dgramStep stepLog start ops
    let taken := history dgramStep stepTaken start ops
    let waiting := (run dgramStep start ops).input
    entries log = (departures log).map Prod.snd ++ waiting ∧ writtenIn log = taken ∧
      ((∀ x ∈ departures log, x.1 = .written) → entries log = taken ++ waiting) := by
  intro start log taken waiting
  have hlogs : Logs start log taken (run dgramStep start ops) := run_logs start ops
  have hbalance : entries log = (departures log).map Prod.snd ++ waiting := hlogs.replays.balance
  refine ⟨hbalance, hlogs.written, fun hall => ?_⟩
  have htaken : (departures log).map Prod.snd = taken := by
    rw [← hlogs.written, writtenIn, List.filter_eq_self.2 fun x hx => decide_eq_true (hall x hx)]
  rw [hbalance, htaken]

namespace Sample

/-- Handlers that do nothing. -/
def silent : Emission := ⟨.done, true⟩

/-- The kernel takes as many bytes, or the descriptor is not ready. -/
def writing (written : Option Nat) (writeError : Option Emission) : Writing where
  written
  errno := .other
  broken := false
  writeError
  moreData := silent
  removed := true

/-- A client commits three datagrams, and the kernel takes two. -/
def twoOfThree : List DgramOp :=
  [.assign 1 3 .connSocket true true true,
    .calls (.commit none [1] true true (.commit none [2] true true (.commit none [3] true true
      .done))),
    .write ⟨silent, writing (some 1) none, [writing (some 1) none, writing none none]⟩ true]

/-- The handlers of the write error signal throw the datagram away, commit another one and have the
error ignored. -/
def replaced : List DgramOp :=
  [.assign 1 3 .connSocket true true true, .calls (.commit none [1] true true .done),
    .write ⟨silent, writing none (some ⟨.clearUnwritten 0 .done true true
      (.commit none [2] true true .done), true⟩), []⟩ true]

end Sample

/-- Of the three datagrams two were taken, and the third one waits. -/
theorem two_of_three_accounted :
    let start := createWith 64 64
    let taken := history dgramStep stepTaken start Sample.twoOfThree
    let waiting := (run dgramStep start Sample.twoOfThree).input
    entries (history dgramStep stepLog start Sample.twoOfThree) = taken ++ waiting ∧
      taken.map Dgram.body = [[1], [2]] ∧ waiting.map Dgram.body = [[3]] :=
  ⟨(dgrams_accounted 64 64 Sample.twoOfThree).2.2 (by decide), by decide, by decide⟩

/-- An error that is ignored removes what is at the front then, also if it was never written. -/
example : (departures (history dgramStep stepLog (createWith 64 64) Sample.replaced)).map
    (fun x => (x.1, x.2.body)) = [(.cleared, [1]), (.ignored, [2])] := by decide

end FdDgramChannel

end Codon.Io
