import Codon.Io.Firewall

/-!
# Uses of a datagram channel's descriptor after it was closed

Handlers of the signals of a channel can close it while an event is being handled. Write events
check for this after each emission. `handle_fd_read` does not check after it has asked for
room, nor does `clear_unwritten` after it has asked for data. For each of them: which handlers
have it use the handle of the sink, or the descriptor, when it is gone.
-/

namespace Codon.Io

namespace FdDgramChannel

variable {c : FdDgramChannel}

/-! ## Calls of handlers -/

/-- No handler that `clear_unwritten` calls among these calls closes the descriptor before it
returns, unless it fails. -/
def Orderly : FdDgramChannel → Calls → Prop
  | _, .done => True
  | c, .commit addr body fits added next => Orderly (c.commitDataframe addr body fits added).2 next
  | c, .pop added next => Orderly (c.popDgram added).2 next
  | c, .clear added next => Orderly (c.clear added).2 next
  | c, .clearUnwritten space handlers signalled removed next =>
      if c.AsksForData space then
        Orderly { c with input := [] } handlers ∧
          (signalled = true → (make { c with input := [] } handlers).fes.isSome = true) ∧
          Orderly ((make { c with input := [] } handlers).stopWriting signalled removed).2 next
      else Orderly (c.clearQuietly removed).2 next
  | c, .close removed next => Orderly (c.channelClose false removed).2 next

/-- Without a descriptor there is nothing to be written. -/
def Drained (c : FdDgramChannel) : Prop := c.fes = none → c.input = []

/-- A handle that is held is used without harm. -/
theorem use_of_held (h : c.fes.isSome = true) : c.use = c := by
  simp [use, h]

/-- To use a handle that is gone is a misuse. -/
theorem use_misuses_of_lost (h : c.fes = none) : c.use.misuses = c.misuses + 1 := by
  simp [use, h]

/-- Asking for events is one use of the handle. -/
theorem switch_events_misuses (c : FdDgramChannel) (ev : FdEv) (on taken : Bool) :
    (c.switchEvents ev on taken).misuses = c.use.misuses := by
  unfold switchEvents
  split_ifs <;> rfl

/-- Asking for events keeps the handle. -/
theorem switch_events_fes (c : FdDgramChannel) (ev : FdEv) (on taken : Bool) :
    (c.switchEvents ev on taken).fes.isSome = c.fes.isSome := by
  unfold switchEvents
  split_ifs
  · exact Option.isSome_map ..
  · rfl

/-- Asking for events leaves what is to be written. -/
theorem switch_events_input (c : FdDgramChannel) (ev : FdEv) (on taken : Bool) :
    (c.switchEvents ev on taken).input = c.input := by
  unfold switchEvents
  split_ifs <;> rfl

/-- Asking for events is no misuse while the handle is held. -/
theorem switch_events_misuses_of_held (h : c.fes.isSome = true) (ev : FdEv) (on taken : Bool) :
    (c.switchEvents ev on taken).misuses = c.misuses := by
  rw [switch_events_misuses, use_of_held h]

/-- An open channel holds its handle. -/
theorem held_of_open (h : c.isClosed = false) : c.fes.isSome = true := by
  unfold isClosed at h
  cases hfes : c.fes with
  | none => simp [hfes] at h
  | some s => rfl

/-- A commit uses the sink only if there is one. -/
theorem commit_dataframe_misuses (c : FdDgramChannel) (addr : Option SockHead)
    (body : List UInt8) (fits added : Bool) :
    (c.commitDataframe addr body fits added).2.misuses = c.misuses := by
  unfold commitDataframe channelCommitDataframe
  split_ifs with hclosed
  all_goals first | rfl | skip
  exact switch_events_misuses_of_held
    (c := { c with input := c.input ++ [⟨addr.getD {}, body⟩] })
    (held_of_open (c := c) (by simpa using hclosed)) ..

/-- Reading is only resumed with an open channel. -/
theorem resume_reading_misuses (c : FdDgramChannel) (added : Bool) :
    (c.resumeReading added).2.misuses = c.misuses := by
  unfold resumeReading
  split_ifs with hopen
  · exact switch_events_misuses_of_held (held_of_open (by simp_all)) ..
  · rfl

/-- Closing the channel is no misuse. -/
theorem channel_close_misuses (c : FdDgramChannel) (fesClosed removed : Bool) :
    (c.channelClose fesClosed removed).2.misuses = c.misuses := by
  by_cases hfes : c.fes = none
  · simp [channelClose, hfes]
  · have hheld : c.fes.isSome = true := Option.isSome_iff_ne_none.2 hfes
    have hstop : (c.stopReading fesClosed removed).misuses = c.misuses :=
      switch_events_misuses_of_held
        (c := { c with isClosedFlag := true, input := if fesClosed then [] else c.input }) hheld ..
    unfold channelClose
    split_ifs
    · rfl
    · exact hstop
    · exact hstop
    · exact hstop

/-- Clearing without asking for data is no misuse. -/
theorem clear_quietly_misuses (c : FdDgramChannel) (removed : Bool) :
    (c.clearQuietly removed).2.misuses = c.misuses := by
  unfold clearQuietly
  split_ifs
  · rfl
  · exact channel_close_misuses { c with input := [] } ..
  · rfl

/-- Taking a datagram is no misuse. -/
theorem pop_dgram_misuses (c : FdDgramChannel) (added : Bool) :
    (c.popDgram added).2.misuses = c.misuses := by
  unfold popDgram
  split_ifs
  · rfl
  · exact resume_reading_misuses { c with output := c.output.tail } added

/-- Dropping what was read is no misuse. -/
theorem clear_misuses (c : FdDgramChannel) (added : Bool) :
    (c.clear added).2.misuses = c.misuses := by
  unfold clear
  split_ifs
  · rfl
  · exact resume_reading_misuses { c with output := [] } added

/-- The end of writing takes no misuse back. -/
theorem stop_writing_misuses_le (c : FdDgramChannel) (signalled removed : Bool) :
    c.misuses ≤ (c.stopWriting signalled removed).2.misuses := by
  unfold stopWriting
  split_ifs
  · exact Nat.le_refl _
  · rw [switch_events_misuses]
    exact Nat.le_add_right ..
  · exact Nat.le_refl _

/-- Handlers do not take misuses back. -/
theorem make_misuses_le (c : FdDgramChannel) (calls : Calls) :
    c.misuses ≤ (c.make calls).misuses := by
  refine make_induction (R := fun c c' => c.misuses ≤ c'.misuses) (fun _ => Nat.le_refl _)
    Nat.le_trans (fun c addr body fits added => ?_) (fun c added => ?_)
    (fun c output _ => Nat.le_refl _) (fun c => Nat.le_refl _) stop_writing_misuses_le
    (fun c removed => ?_) c calls
  · exact Nat.le_of_eq (commit_dataframe_misuses ..).symm
  · exact Nat.le_of_eq (resume_reading_misuses ..).symm
  · exact Nat.le_of_eq (channel_close_misuses ..).symm

/-- Asking for events keeps a channel drained. -/
theorem Drained.switch_events (h : c.Drained) (ev : FdEv) (on taken : Bool) :
    (c.switchEvents ev on taken).Drained := by
  intro hfes
  rw [switch_events_input]
  refine h (Option.not_isSome_iff_eq_none.1 ?_)
  rw [← switch_events_fes c ev on taken, hfes]
  exact Bool.false_ne_true

/-- With a handle there may be something to write. -/
theorem Drained.of_held (h : c.fes.isSome = true) : c.Drained :=
  fun hfes => by simp [hfes] at h

/-- The descriptor is only closed once everything has been written or thrown away. -/
theorem Drained.channel_close (c : FdDgramChannel) (fesClosed removed : Bool) :
    (c.channelClose fesClosed removed).2.Drained := by
  unfold channelClose
  split_ifs with hfes _ hinput
  · exact fun _ => rfl
  all_goals
    have hheld : c.fes.isSome = true := by simpa [Option.isSome_iff_ne_none] using hfes
  · exact .of_held ((switch_events_fes ..).trans hheld)
  · exact .of_held ((switch_events_fes ..).trans hheld)
  · intro _
    simpa [drop] using hinput

/-- Handlers write nothing to a channel without a handle. -/
theorem Drained.make (h : c.Drained) (calls : Calls) : (c.make calls).Drained := by
  refine make_induction (R := fun c c' => c.Drained → c'.Drained) (fun c => id)
    (fun h h' => h' ∘ h) (fun c addr body fits added h => ?_) (fun c added h => ?_)
    (fun c output _ h => h) (fun c _ _ => rfl) (fun c signalled removed h => ?_)
    (fun c removed _ => Drained.channel_close c false removed) c calls h
  · unfold commitDataframe channelCommitDataframe
    split_ifs with hclosed
    all_goals first | exact h | skip
    all_goals
      have hheld : c.fes.isSome = true := held_of_open (by simpa using hclosed)
    · exact .of_held hheld
    · exact .of_held ((switch_events_fes ..).trans hheld)
  · unfold resumeReading
    split_ifs
    · exact h.switch_events .read true added
    · exact h
  · unfold stopWriting
    split_ifs
    · exact h
    · exact h.switch_events .write false removed
    · exact h

/-- The last part of `clear_unwritten` is a misuse if its handlers have closed the descriptor. -/
theorem stop_writing_misuses_iff (h : c.Drained) (signalled removed : Bool) :
    (c.stopWriting signalled removed).2.misuses = c.misuses ↔
      (signalled = true → c.fes.isSome = true) := by
  cases signalled with
  | false => simp [stopWriting]
  | true =>
      cases hfes : c.fes with
      | none => simp [stopWriting, h hfes, switch_events_misuses, use, hfes]
      | some s =>
          have hheld : c.fes.isSome = true := by rw [hfes]; rfl
          simp only [stopWriting, Bool.not_true, Bool.false_eq_true, if_false, Option.isSome_some,
            imp_true_iff, iff_true]
          split_ifs
          · exact switch_events_misuses_of_held hheld ..
          · rfl

/-- Handlers misuse the descriptor if one of their calls of `clear_unwritten` does. -/
theorem make_misuses_iff (c : FdDgramChannel) (calls : Calls) :
    (c.make calls).misuses = c.misuses ↔ c.Orderly calls := by
  induction calls generalizing c with
  | done => exact iff_of_true rfl trivial
  | commit addr body fits added next ih =>
      rw [make, Orderly, ← ih, commit_dataframe_misuses]
  | pop added next ih => rw [make, Orderly, ← ih, pop_dgram_misuses]
  | clear added next ih => rw [make, Orderly, ← ih, clear_misuses]
  | close removed next ih => rw [make, Orderly, ← ih, channel_close_misuses]
  | clearUnwritten space handlers signalled removed next ihandlers ih =>
      by_cases hasks : c.AsksForData space
      · have hheld : c.fes.isSome = true := held_of_open hasks.2.1
        have hdrained : (FdDgramChannel.make { c with input := [] } handlers).Drained :=
          Drained.make (fun _ => rfl) handlers
        rw [make, Orderly, if_pos hasks, if_pos hasks, ← ihandlers, ← ih,
          ← stop_writing_misuses_iff hdrained signalled removed]
        have hhandlers := make_misuses_le { c with input := [] } handlers
        have hstop := stop_writing_misuses_le (FdDgramChannel.make { c with input := [] } handlers)
          signalled removed
        have hnext := make_misuses_le ((FdDgramChannel.make { c with input := [] }
          handlers).stopWriting signalled removed).2 next
        simp only at hhandlers ⊢
        omega
      · rw [make, Orderly, if_neg hasks, if_neg hasks, ← ih, clear_quietly_misuses]

/-! ## Read events -/

/-- Reading a datagram does not use the handle. -/
theorem take_dgram_misuses (c : FdDgramChannel) (head : SockHead) (r : Reading) :
    (c.takeDgram head r).2.misuses = c.misuses ∧ (c.takeDgram head r).2.fes = c.fes := by
  unfold takeDgram
  split
  · exact ⟨rfl, rfl⟩
  · split_ifs <;> exact ⟨rfl, rfl⟩

/-- A pass of the loop uses the sink or the descriptor, of which it keeps hold. -/
theorem read_pass_misuses (c : FdDgramChannel) (hassigned : c.fdType ≠ .none) (r : Reading) :
    (c.readPass r).2.misuses = c.use.misuses ∧
      (c.readPass r).2.fes.isSome = c.fes.isSome := by
  unfold readPass
  by_cases hspace : r.space < c.reserveLen
  · rw [if_pos hspace]
    exact ⟨switch_events_misuses .., switch_events_fes ..⟩
  · rw [if_neg hspace, if_neg hassigned]
    split_ifs
    · exact ⟨rfl, rfl⟩
    all_goals
      obtain ⟨hmisuses, hfes⟩ := take_dgram_misuses c.use _ r
      exact ⟨hmisuses, congrArg Option.isSome hfes⟩

/-- A relation that the passes keep holds between the channel before the loop and after it. -/
theorem read_loop_induction {R : FdDgramChannel → FdDgramChannel → Prop} (refl : ∀ c, R c c)
    (trans : ∀ {c c' c''}, R c c' → R c' c'' → R c c'') (pass : ∀ c r, R c (readPass c r).2)
    (c : FdDgramChannel) (dgramsRead readings : List Reading) :
    R c (c.readLoop dgramsRead readings).2.2 := by
  induction readings generalizing c dgramsRead with
  | nil => exact refl c
  | cons r readings ih =>
      have hpass := pass c r
      simp only [readLoop]
      generalize c.readPass r = result at hpass
      obtain ⟨end_, after⟩ := result
      cases end_ with
      | fail => exact hpass
      | stop => exact hpass
      | again =>
          simp only
          split_ifs
          · exact trans hpass (ih after dgramsRead)
          · exact hpass
      | committed =>
          simp only
          split_ifs
          · exact trans hpass (ih after _)
          · exact hpass

/-- A pass of reading takes no misuse back. -/
theorem read_pass_misuses_le (c : FdDgramChannel) (r : Reading) :
    c.misuses ≤ (c.readPass r).2.misuses := by
  have huse : c.misuses ≤ c.use.misuses := Nat.le_add_right ..
  unfold readPass
  by_cases hspace : r.space < c.reserveLen
  · rw [if_pos hspace, switch_events_misuses]
    exact huse
  · rw [if_neg hspace]
    split_ifs
    · exact huse
    · exact Nat.le_trans huse (Nat.le_of_eq (take_dgram_misuses c.use _ r).1.symm)
    · exact Nat.le_refl _
    · exact Nat.le_trans huse (Nat.le_of_eq (take_dgram_misuses c.use _ r).1.symm)

/-- The loop keeps hold of the sink and does not misuse it. -/
theorem read_loop_misuses (hassigned : c.fdType ≠ .none) (hheld : c.fes.isSome = true)
    (dgramsRead readings : List Reading) :
    (c.readLoop dgramsRead readings).2.2.misuses = c.misuses := by
  have hloop := read_loop_induction
    (R := fun c c' => c.fdType ≠ .none → c.fes.isSome = true →
      c'.misuses = c.misuses ∧ c'.fdType = c.fdType ∧ c'.fes.isSome = true)
    (fun c _ hheld => ⟨rfl, rfl, hheld⟩)
    (fun h h' hassigned hheld => ?_) (fun c r hassigned hheld => ?_) c dgramsRead readings
  · exact (hloop hassigned hheld).1
  · obtain ⟨hmisuses, htype, hfes⟩ := h hassigned hheld
    obtain ⟨hmisuses', htype', hfes'⟩ := h' (htype.symm ▸ hassigned) hfes
    exact ⟨hmisuses'.trans hmisuses, htype'.trans htype, hfes'⟩
  · obtain ⟨hmisuses, hfes⟩ := read_pass_misuses c hassigned r
    rw [use_of_held hheld] at hmisuses
    exact ⟨hmisuses, (read_pass_config c r).1, hfes.trans hheld⟩

/-- Without the sink the first pass is a misuse. -/
theorem read_loop_misuses_of_lost (hassigned : c.fdType ≠ .none) (hlost : c.fes = none)
    (r : Reading) (dgramsRead readings : List Reading) :
    c.misuses < (c.readLoop dgramsRead (r :: readings)).2.2.misuses := by
  have hpass := (read_pass_misuses c hassigned r).1
  rw [use_misuses_of_lost hlost] at hpass
  simp only [readLoop]
  generalize c.readPass r = result at hpass
  obtain ⟨end_, after⟩ := result
  have hle : ∀ dgramsRead, c.misuses < (after.readLoop dgramsRead readings).2.2.misuses :=
    fun dgramsRead => by
      have hrest := read_loop_induction (R := fun c c' => c.misuses ≤ c'.misuses)
        (fun c => Nat.le_refl _) Nat.le_trans read_pass_misuses_le after dgramsRead readings
      simp only at hpass
      omega
  have hlt : c.misuses < after.misuses := by
    simp only at hpass
    omega
  cases end_ with
  | fail => exact hlt
  | stop => exact hlt
  | again =>
      simp only
      split_ifs
      · exact hle _
      · exact hlt
  | committed =>
      simp only
      split_ifs
      · exact hle _
      · exact hlt

/-- The signal for new data that `handle_fd_read` emits, with the channel that emits it. -/
def newDataEmissions (c : FdDgramChannel) (e : ReadEvent) : List (FdDgramChannel × Emission) :=
  match c.readLoop [] (e.first :: e.readings) with
  | (false, _, _) => []
  | (true, dgramsRead, after) => if dgramsRead.isEmpty then [] else [(after, e.newData)]

/-- The signals that `handle_fd_read` emits. -/
def readEmissions (c : FdDgramChannel) (event : FdEvent) (e : ReadEvent) :
    List (FdDgramChannel × Emission) :=
  if ¬c.OwnEvent event then []
  else
    (if e.space < c.reserveLen then [(c, e.makeRoom)] else []) ++
    if e.space < c.reserveLen ∧ e.makeRoom.result = false then []
    else (c.beforeReading e).newDataEmissions e

/-- The handlers that are asked to make room do not close the descriptor, unless they fail. -/
def KeepsRoom (c : FdDgramChannel) (event : FdEvent) (e : ReadEvent) : Prop :=
  c.OwnEvent event → e.space < c.reserveLen → e.makeRoom.result = true →
    (c.make e.makeRoom.calls).fes.isSome = true

/-- A channel whose event is handled holds its handle. -/
theorem OwnEvent.held {event : FdEvent} (h : c.OwnEvent event) : c.fes.isSome = true := by
  obtain ⟨s, hs, -⟩ := h
  exact Option.isSome_of_mem hs

/-- What follows the loop of reading takes no misuse back. -/
theorem read_all_misuses_le (c : FdDgramChannel) (e : ReadEvent) :
    (c.readLoop [] (e.first :: e.readings)).2.2.misuses ≤ (c.readAll e).2.2.misuses := by
  unfold readAll
  generalize c.readLoop [] (e.first :: e.readings) = result
  obtain ⟨ok, dgramsRead, after⟩ := result
  cases ok with
  | false => exact Nat.le_refl _
  | true =>
      simp only
      split_ifs
      · exact Nat.le_refl _
      · exact make_misuses_le ..

/-- From the loop on, only the handlers of the signal for new data misuse a sink that is held. -/
theorem read_all_misuses_iff (hassigned : c.fdType ≠ .none) (hheld : c.fes.isSome = true)
    (e : ReadEvent) :
    (c.readAll e).2.2.misuses = c.misuses ↔
      ∀ x ∈ c.newDataEmissions e, x.1.Orderly x.2.calls := by
  have hloop := read_loop_misuses hassigned hheld [] (e.first :: e.readings)
  unfold readAll newDataEmissions
  generalize c.readLoop [] (e.first :: e.readings) = result at hloop
  obtain ⟨ok, dgramsRead, after⟩ := result
  cases ok with
  | false => exact iff_of_true hloop (by simp)
  | true =>
      cases dgramsRead with
      | nil => exact iff_of_true hloop (by simp)
      | cons r rest =>
          simp only [List.isEmpty_cons, Bool.false_eq_true, if_false, List.mem_singleton,
            forall_eq]
          rw [← make_misuses_iff, ← hloop]

/-- `handle_fd_read` misuses the descriptor exactly if a handler does in `clear_unwritten`, or the
handlers that are asked to make room close it. -/
theorem handle_fd_read_misuses_iff (hassigned : c.fdType ≠ .none) (event : FdEvent)
    (e : ReadEvent) :
    (c.handleFdRead event e).2.2.misuses = c.misuses ↔
      (∀ x ∈ c.readEmissions event e, x.1.Orderly x.2.calls) ∧ c.KeepsRoom event e := by
  unfold handleFdRead readEmissions KeepsRoom
  by_cases hown : c.OwnEvent event
  · by_cases hspace : e.space < c.reserveLen
    · have hbefore : c.beforeReading e = c.make e.makeRoom.calls := if_pos hspace
      have hle := make_misuses_le c e.makeRoom.calls
      have hassigned' : (c.make e.makeRoom.calls).fdType ≠ .none :=
        (make_config c e.makeRoom.calls).1.symm ▸ hassigned
      cases hresult : e.makeRoom.result with
      | false => simp [hown, hspace, hbefore, make_misuses_iff]
      | true =>
          have hle' := Nat.le_trans (read_loop_induction (R := fun c c' => c.misuses ≤ c'.misuses)
            (fun c => Nat.le_refl _) Nat.le_trans read_pass_misuses_le (c.make e.makeRoom.calls) []
            (e.first :: e.readings)) (read_all_misuses_le (c.make e.makeRoom.calls) e)
          cases hfes : (c.make e.makeRoom.calls).fes with
          | none =>
              have hlost := read_loop_misuses_of_lost hassigned' hfes e.first [] e.readings
              have hall := read_all_misuses_le (c.make e.makeRoom.calls) e
              have hmisused : ((c.make e.makeRoom.calls).readAll e).2.2.misuses ≠ c.misuses := by
                omega
              simp [hown, hspace, hbefore, hmisused]
          | some s =>
              have hrest := read_all_misuses_iff hassigned' (by rw [hfes]; rfl) e
              have hsum : ((c.make e.makeRoom.calls).readAll e).2.2.misuses = c.misuses ↔
                  (c.make e.makeRoom.calls).misuses = c.misuses ∧
                    ((c.make e.makeRoom.calls).readAll e).2.2.misuses =
                      (c.make e.makeRoom.calls).misuses := by
                omega
              simp [hown, hspace, hbefore, hsum, hrest, make_misuses_iff]
    · have hbefore : c.beforeReading e = c := if_neg hspace
      have hrest := read_all_misuses_iff hassigned hown.held e
      simp [hown, hspace, hbefore, hrest]
  · simp [hown]

/-! ## Write events -/

/-- The write signal that is emitted after a pass has made room. -/
def afterEmissions (c : FdDgramChannel) (origDgramsAvail : Nat) (w : Writing) :
    List (FdDgramChannel × Emission) :=
  if c.MadeRoom origDgramsAvail then [(c, w.moreData)] else []

/-- The signals of a pass from where the datagram has been handed to the kernel. -/
def popEmissions (c : FdDgramChannel) (origDgramsAvail bodylen : Nat) (retval : Option Nat)
    (w : Writing) : List (FdDgramChannel × Emission) :=
  if retval = some bodylen ∧ c.input ≠ [] then
    { c with input := c.input.tail }.afterEmissions origDgramsAvail w
  else []

/-- The signals of a pass of the loop of `handle_fd_write`. -/
def passEmissions (c : FdDgramChannel) (w : Writing) : List (FdDgramChannel × Emission) :=
  match c.input with
  | [] => c.afterEmissions 0 w
  | dgram :: _ =>
      if c.fdType = .none then []
      else
        match c.use.reportedError dgram.body.length w with
        | none => c.use.popEmissions c.input.length dgram.body.length
            (c.eatErrors dgram.body.length w) w
        | some signal =>
            (c.use, signal) :: (c.use.make signal.calls).popEmissions c.input.length
              dgram.body.length (if signal.result then some dgram.body.length else none) w

/-- The signals of the loop. -/
def loopEmissions : FdDgramChannel → List Writing → List (FdDgramChannel × Emission)
  | _, [] => []
  | c, w :: writings =>
      c.passEmissions w ++
        match c.writePass w with
        | (.again, after) | (.committed, after) =>
            if after.isNonblocking && !after.isLowLatency then loopEmissions after writings else []
        | (.stop, _) | (.fail, _) => []

/-- The signals that `handle_fd_write` emits. -/
def writeEmissions (c : FdDgramChannel) (event : FdEvent) (e : WriteEvent) :
    List (FdDgramChannel × Emission) :=
  if c.handlingWrite then []
  else if ¬c.OwnEvent event then []
  else
    (if c.Starved then [({ c with handlingWrite := true }, e.askForData)] else []) ++
    if c.Starved ∧ e.askForData.result = false then []
    else (c.beforeWriting e).loopEmissions (e.first :: e.writings)

/-- The end of a pass of writing is no misuse. -/
theorem finish_pass_misuses (c : FdDgramChannel) (origDgramsAvail : Nat) (w : Writing) :
    (c.finishPass origDgramsAvail w).2.misuses = c.misuses := by
  cases hclosed : c.isClosed with
  | false =>
      have hswitch := switch_events_misuses_of_held (held_of_open hclosed) .write false w.removed
      simp only [finishPass, hclosed, Bool.not_false, if_true]
      split_ifs
      · exact hswitch
      · exact hswitch
      · rfl
  | true =>
      simp only [finishPass, hclosed, Bool.not_true, Bool.false_eq_true, if_false]
      split_ifs <;> rfl

/-- After each emission `handle_fd_write` checks whether the channel is closed. -/
theorem after_writing_misuses_iff (c : FdDgramChannel) (origDgramsAvail : Nat) (w : Writing) :
    (c.afterWriting origDgramsAvail w).2.misuses = c.misuses ↔
      ∀ x ∈ c.afterEmissions origDgramsAvail w, x.1.Orderly x.2.calls := by
  unfold afterWriting afterEmissions
  split_ifs
  · simp [finish_pass_misuses, make_misuses_iff]
  · simp [make_misuses_iff]
  · simp [finish_pass_misuses]

/-- What is emitted when the datagram at the front was written whole. -/
theorem pop_emissions_of_popped (hinput : c.input ≠ []) (origDgramsAvail bodylen : Nat)
    (w : Writing) : c.popEmissions origDgramsAvail bodylen (some bodylen) w =
      { c with input := c.input.tail }.afterEmissions origDgramsAvail w :=
  if_pos ⟨rfl, hinput⟩

/-- Nothing is emitted when the datagram at the front stays. -/
theorem pop_emissions_of_kept {retval : Option Nat} {bodylen : Nat}
    (h : ¬(retval = some bodylen ∧ c.input ≠ [])) (origDgramsAvail : Nat) (w : Writing) :
    c.popEmissions origDgramsAvail bodylen retval w = [] :=
  if_neg h

/-- A pass of writing misuses the handle exactly if handlers close it during an emission that is not
orderly. -/
theorem pop_written_misuses_iff (c : FdDgramChannel) (origDgramsAvail bodylen : Nat)
    (retval : Option Nat) (w : Writing) :
    (c.popWritten origDgramsAvail bodylen retval w).2.misuses = c.misuses ↔
      ∀ x ∈ c.popEmissions origDgramsAvail bodylen retval w, x.1.Orderly x.2.calls := by
  cases retval with
  | none =>
      rw [pop_emissions_of_kept (by simp)]
      refine iff_of_true ?_ (by simp)
      simp only [popWritten]
      split_ifs <;> rfl
  | some written =>
      by_cases hwritten : written = bodylen
      · by_cases hinput : c.input = []
        · rw [pop_emissions_of_kept (by simp [hinput])]
          simp [popWritten, hwritten, hinput]
        · have hafter := after_writing_misuses_iff { c with input := c.input.tail }
            origDgramsAvail w
          rw [hwritten, pop_emissions_of_popped hinput]
          simpa [popWritten, hinput] using hafter
      · rw [pop_emissions_of_kept (by simp [hwritten])]
        simp [popWritten, hwritten]

section Induction

variable {R : FdDgramChannel → FdDgramChannel → Prop} (refl : ∀ c, R c c)
  (trans : ∀ {c c' c''}, R c c' → R c' c'' → R c c'') (use : ∀ c : FdDgramChannel, R c c.use)
  (make : ∀ (c : FdDgramChannel) calls, R c (c.make calls))
  (tail : ∀ c : FdDgramChannel, R c { c with input := c.input.tail })
  (switch : ∀ (c : FdDgramChannel) removed, R c (c.switchEvents .write false removed))

include refl trans make switch in
/-- What the end of a pass of writing and its handlers keep, the pass keeps. -/
theorem after_writing_induction (c : FdDgramChannel) (origDgramsAvail : Nat) (w : Writing) :
    R c (c.afterWriting origDgramsAvail w).2 := by
  have hfinish : ∀ c, R c (finishPass c origDgramsAvail w).2 := by
    intro c
    unfold finishPass
    split_ifs
    all_goals first | exact switch .. | exact refl c
  unfold afterWriting
  split_ifs
  · exact trans (make c _) (hfinish _)
  · exact make c _
  · exact hfinish c

include refl trans make tail switch in
/-- What the steps after a write and their handlers keep, all of them keep. -/
theorem pop_written_induction (c : FdDgramChannel) (origDgramsAvail bodylen : Nat)
    (retval : Option Nat) (w : Writing) :
    R c (c.popWritten origDgramsAvail bodylen retval w).2 := by
  unfold popWritten
  split
  · split_ifs
    all_goals exact refl c
  · split_ifs
    · exact refl c
    · exact refl c
    · exact trans (tail c) (after_writing_induction refl trans make switch _ origDgramsAvail w)

include refl trans use make tail switch in
/-- A relation that the parts of a pass of `handle_fd_write` keep is kept by the pass. -/
theorem write_pass_induction (c : FdDgramChannel) (w : Writing) : R c (c.writePass w).2 := by
  have hpop := pop_written_induction refl trans make tail switch
  unfold writePass
  split
  · exact after_writing_induction refl trans make switch c 0 w
  · split_ifs
    · exact refl c
    · simp only
      split
      · exact trans (use c) (hpop ..)
      · exact trans (trans (use c) (make _ _)) (hpop ..)

end Induction

/-- Asking for events takes no misuse back. -/
theorem switch_events_misuses_le (c : FdDgramChannel) (ev : FdEv) (on taken : Bool) :
    c.misuses ≤ (c.switchEvents ev on taken).misuses := by
  rw [switch_events_misuses]
  exact Nat.le_add_right ..

/-- The steps after a write take no misuse back. -/
theorem pop_written_misuses_le (c : FdDgramChannel) (origDgramsAvail bodylen : Nat)
    (retval : Option Nat) (w : Writing) :
    c.misuses ≤ (c.popWritten origDgramsAvail bodylen retval w).2.misuses :=
  pop_written_induction (R := fun c c' => c.misuses ≤ c'.misuses) (fun _ => Nat.le_refl _)
    Nat.le_trans make_misuses_le (fun _ => Nat.le_refl _)
    (fun c removed => switch_events_misuses_le c .write false removed) c origDgramsAvail bodylen
    retval w

/-- A pass of writing takes no misuse back. -/
theorem write_pass_misuses_le (c : FdDgramChannel) (w : Writing) :
    c.misuses ≤ (c.writePass w).2.misuses :=
  write_pass_induction (R := fun c c' => c.misuses ≤ c'.misuses) (fun _ => Nat.le_refl _)
    Nat.le_trans (fun _ => Nat.le_add_right ..) make_misuses_le (fun _ => Nat.le_refl _)
    (fun c removed => switch_events_misuses_le c .write false removed) c w

/-- A pass of writing keeps a channel drained. -/
theorem Drained.write_pass (h : c.Drained) (w : Writing) : (c.writePass w).2.Drained := by
  refine write_pass_induction (R := fun c c' => c.Drained → c'.Drained) (fun _ => id)
    (fun h h' => h' ∘ h) (fun _ h => h) (fun _ calls h => h.make calls)
    (fun _ h hfes => ?_) (fun _ removed h => h.switch_events .write false removed) c w h
  exact congrArg List.tail (h hfes)

/-- The datagram is written to a descriptor that is open. -/
theorem write_pass_misuses_iff (h : c.Drained) (w : Writing) :
    (c.writePass w).2.misuses = c.misuses ↔
      ∀ x ∈ c.passEmissions w, x.1.Orderly x.2.calls := by
  cases hinput : c.input with
  | nil => simpa [writePass, passEmissions, hinput] using after_writing_misuses_iff c 0 w
  | cons dgram rest =>
      have hheld : c.fes.isSome = true := by
        rw [Option.isSome_iff_ne_none]
        intro hfes
        cases (h hfes).symm.trans hinput
      by_cases htype : c.fdType = .none
      · simp [writePass, passEmissions, hinput, htype]
      · simp only [writePass, passEmissions, hinput, if_neg htype, use_of_held hheld]
        cases hreported : c.reportedError dgram.body.length w with
        | none => exact pop_written_misuses_iff ..
        | some signal =>
            have hmake := make_misuses_le c signal.calls
            have hpop := pop_written_misuses_le (c.make signal.calls) (dgram :: rest).length
              dgram.body.length (if signal.result then some dgram.body.length else none) w
            have hiff := pop_written_misuses_iff (c.make signal.calls) (dgram :: rest).length
              dgram.body.length (if signal.result then some dgram.body.length else none) w
            rw [List.forall_mem_cons, ← hiff, ← make_misuses_iff]
            simp only
            omega

/-- The loop of writing takes no misuse back. -/
theorem write_loop_misuses_le (c : FdDgramChannel) (writings : List Writing) :
    c.misuses ≤ (c.writeLoop writings).2.misuses := by
  induction writings generalizing c with
  | nil => exact Nat.le_refl _
  | cons w writings ih =>
      have hpass := write_pass_misuses_le c w
      simp only [writeLoop]
      generalize c.writePass w = result at hpass
      obtain ⟨end_, after⟩ := result
      cases end_ with
      | fail => exact hpass
      | stop => exact hpass
      | again | committed =>
          simp only
          split_ifs
          · exact Nat.le_trans hpass (ih after)
          · exact hpass

/-- The passes misuse the descriptor if their handlers do. -/
theorem write_loop_misuses_iff (h : c.Drained) (writings : List Writing) :
    (c.writeLoop writings).2.misuses = c.misuses ↔
      ∀ x ∈ c.loopEmissions writings, x.1.Orderly x.2.calls := by
  induction writings generalizing c with
  | nil => simp [writeLoop, loopEmissions]
  | cons w writings ih =>
      have hpass := write_pass_misuses_iff h w
      have hle := write_pass_misuses_le c w
      have hdrained := h.write_pass w
      simp only [writeLoop, loopEmissions, List.forall_mem_append, ← hpass]
      generalize c.writePass w = result at hpass hle hdrained
      obtain ⟨end_, after⟩ := result
      have hrest := write_loop_misuses_le after writings
      have hlater := ih (c := after) hdrained
      cases end_ with
      | fail => simp
      | stop => simp
      | again | committed =>
          simp only at hle ⊢
          split_ifs
          · rw [← hlater]
            omega
          · simp

/-- `handle_fd_write` misuses the descriptor exactly if a handler does in `clear_unwritten`. -/
theorem handle_fd_write_misuses_iff (c : FdDgramChannel) (event : FdEvent) (e : WriteEvent) :
    (c.handleFdWrite event e).2.misuses = c.misuses ↔
      ∀ x ∈ c.writeEmissions event e, x.1.Orderly x.2.calls := by
  unfold handleFdWrite writeEmissions
  by_cases hhandling : c.handlingWrite = true
  · simp [hhandling]
  by_cases hown : c.OwnEvent event
  · have hdrained : Drained { c with handlingWrite := true } := .of_held (c := c) hown.held
    by_cases hstarved : c.Starved
    · have hbefore : c.beforeWriting e =
          FdDgramChannel.make { c with handlingWrite := true } e.askForData.calls :=
        if_pos hstarved
      have hmake := make_misuses_iff { c with handlingWrite := true } e.askForData.calls
      have hle := make_misuses_le { c with handlingWrite := true } e.askForData.calls
      have hloop := write_loop_misuses_iff (hdrained.make e.askForData.calls)
        (e.first :: e.writings)
      have hle' := write_loop_misuses_le
        (FdDgramChannel.make { c with handlingWrite := true } e.askForData.calls)
        (e.first :: e.writings)
      simp only [hhandling, hown, hstarved, hbefore, if_false, if_true, not_true_eq_false, true_and,
        Bool.false_eq_true, List.singleton_append]
      cases hresult : e.askForData.result with
      | false => simpa using hmake
      | true =>
          simp only [Bool.true_eq_false, if_false, List.forall_mem_cons, ← hloop]
          rw [← hmake]
          simp only at hmake hle hle' ⊢
          omega
    · have hbefore : c.beforeWriting e = { c with handlingWrite := true } := if_neg hstarved
      have hloop := write_loop_misuses_iff hdrained (e.first :: e.writings)
      simpa [hhandling, hown, hstarved, hbefore] using hloop
  · simp [hhandling, hown]

/-- `clear_unwritten` misuses the sink exactly if its handlers close it, or they misuse it. -/
theorem clear_unwritten_misuses_iff (c : FdDgramChannel) (space : Nat) (signal : Emission)
    (removed : Bool) :
    (c.clearUnwritten space signal removed).2.misuses = c.misuses ↔
      c.Orderly (.clearUnwritten space signal.calls signal.result removed .done) := by
  rw [← make_misuses_iff, make]
  unfold clearUnwritten
  split_ifs <;> rfl

end FdDgramChannel

end Codon.Io
