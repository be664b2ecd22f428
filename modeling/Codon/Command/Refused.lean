import Codon.Command.Pipeline

/-!
# Commands that the sender refuses, and commands that it writes

A command that the sender refuses is reported as rejected in every request from then on, until
another one is refused. So a ground that only sends commands with larger numbers than the rejected
one of its request sends none again that was refused (`refused_not_repeated`). What is written to a
channel is the frame of a command that was emitted, in signed mode of one that was authorized
(`written_authorized`).
-/

namespace Codon.Command

open Codon.Library Codon.Grpc

variable {Keys SignedData Bytes Payload Message NodeId Channel Frame : Type}

namespace Exchange

variable {x x' : Exchange} {line : Line Payload Channel Frame}
  {h rest : List (Line Payload Channel Frame)} {n : UInt32}

/-- A command that comes has a larger number than what its request reports as rejected. -/
def HeededBy (x : Exchange) (line : Line Payload Channel Frame) : Prop :=
  ∀ issue ∈ line.command?, ∀ request ∈ x.outstanding,
    request.rejectedSequenceNum < issue.emission.sequenceNum

/-- Every command of the history has a larger number than the one that its request reports as
rejected. -/
def Heeded : Exchange → List (Line Payload Channel Frame) → Prop
  | _, [] => True
  | x, line :: h => x.HeededBy line ∧ ∀ x' ∈ x.next line, x'.Heeded h

/-- The requests report this number or a larger one. -/
structure Reports (n : UInt32) (x : Exchange) : Prop where
  refused : n ≤ x.refused
  outstanding : ∀ request ∈ x.outstanding, n ≤ request.rejectedSequenceNum

/-- A history in two parts is heeded part by part. -/
theorem heeded_append (hrun : h.foldlM next x = some x') (hh : x.Heeded h)
    (hrest : x'.Heeded rest) : x.Heeded (h ++ rest) := by
  induction h generalizing x with
  | nil =>
      cases hrun
      exact hrest
  | cons line h ih =>
      refine ⟨hh.1, fun y hy => ?_⟩
      obtain ⟨y', hy', hlater⟩ := Option.bind_eq_some_iff.1 hrun
      cases Option.mem_unique hy hy'
      exact ih hlater (hh.2 y hy)

/-- A refused command is reported from then on. -/
theorem reports_of_refused {issue : Issue Payload Channel Frame}
    (hnext : x.next line = some x') (hissue : issue ∈ line.command?)
    (hrefused : issue.refused = true) : x'.Reports issue.emission.sequenceNum := by
  cases line with
  | fed | asked => cases hissue
  | answered command =>
      cases hissue
      simp only [next, hrefused, if_true, Option.ite_none_right_eq_some] at hnext
      cases hnext.2
      exact ⟨UInt32.le_refl _, fun _ hrequest => absurd hrequest (by simp)⟩

/-- What is reported stays reported, and the commands that come are newer. -/
theorem Reports.next (hreports : x.Reports n) (hnext : x.next line = some x')
    (hheeded : x.HeededBy line) :
    x'.Reports n ∧ ∀ issue ∈ line.command?, n < issue.emission.sequenceNum := by
  cases line with
  | fed feedback =>
      cases hnext
      exact ⟨⟨hreports.refused, hreports.outstanding⟩,
        fun _ hissue => absurd hissue (by simp [Line.command?])⟩
  | asked request =>
      simp only [Exchange.next, Option.ite_none_right_eq_some] at hnext
      obtain ⟨⟨-, -, hrejected⟩, hx'⟩ := hnext
      cases hx'
      refine ⟨⟨hreports.refused, ?_⟩, fun _ hissue => absurd hissue (by simp [Line.command?])⟩
      rintro _ hrequest
      cases hrequest
      rw [hrejected, UInt32.le_iff_toNat_le, to_nat_max]
      exact (UInt32.le_iff_toNat_le.1 hreports.refused).trans (Nat.le_max_right _ _)
  | answered command =>
      simp only [Exchange.next, Option.ite_none_right_eq_some] at hnext
      obtain ⟨hsome, hx'⟩ := hnext
      obtain ⟨request, hrequest⟩ := Option.isSome_iff_exists.1 hsome
      have hnewer (issue : Issue Payload Channel Frame) (hissue : issue ∈ command) :
          n < issue.emission.sequenceNum :=
        UInt32.lt_of_le_of_lt (hreports.outstanding request hrequest)
          (hheeded issue hissue request hrequest)
      cases hx'
      refine ⟨⟨?_, fun _ hnone => absurd hnone (by simp)⟩, hnewer⟩
      cases command with
      | none => exact hreports.refused
      | some issue =>
          dsimp only
          split
          · exact UInt32.le_of_lt (hnewer issue rfl)
          · exact hreports.refused

/-- Every command that comes after what was reported is newer. -/
theorem Reports.lt_of_mem (hreports : x.Reports n) (hrun : h.foldlM Exchange.next x = some x')
    (hheeded : x.Heeded h) : ∀ issue ∈ commands h, n < issue.emission.sequenceNum := by
  induction h generalizing x with
  | nil => exact fun _ hissue => absurd hissue List.not_mem_nil
  | cons line h ih =>
      obtain ⟨y, hy, hlater⟩ := Option.bind_eq_some_iff.1 hrun
      obtain ⟨hnext, hhere⟩ := hreports.next hy hheeded.1
      intro issue hissue
      obtain ⟨line', hline', hcommand⟩ := List.mem_filterMap.1 hissue
      rcases List.mem_cons.1 hline' with rfl | hmem
      · exact hhere issue hcommand
      · exact ih hnext hlater (hheeded.2 y hy) issue (List.mem_filterMap.2 ⟨line', hmem, hcommand⟩)

/-- A ground that heeds the requests sends no command again that the sender refused. -/
theorem pairwise_newer (hrun : h.foldlM Exchange.next x = some x') (hheeded : x.Heeded h) :
    (commands h).Pairwise fun earlier later =>
      earlier.refused = true → earlier.emission.sequenceNum < later.emission.sequenceNum := by
  induction h generalizing x with
  | nil => exact List.Pairwise.nil
  | cons line h ih =>
      obtain ⟨y, hy, hlater⟩ := Option.bind_eq_some_iff.1 hrun
      have hrest := ih hlater (hheeded.2 y hy)
      cases hcommand : line.command? with
      | none => rwa [commands, List.filterMap_cons_none hcommand]
      | some issue =>
          rw [commands, List.filterMap_cons_some hcommand, List.pairwise_cons]
          exact ⟨fun issue' hissue' hrefused =>
            (reports_of_refused hy hcommand hrefused).lt_of_mem hlater (hheeded.2 y hy) issue'
              hissue', hrest⟩

end Exchange

namespace Pipeline

variable {o : Outside Keys SignedData Bytes Payload}
  {framing : Framing Payload Message NodeId Frame}
  {s : Pipeline Keys SignedData Bytes Payload NodeId Channel} {targetEntity : String} {keys : Keys}
  {enabled requireSignedCommand : Bool} {config : GrpcPollerConfig} {draw : Draw}
  {poller : GrpcPoller}

/-- A response that brings a command brings one with a larger number than the one that its request
reported as rejected. -/
def Heeds (s : Pipeline Keys SignedData Bytes Payload NodeId Channel) :
    Occurrence Keys SignedData Bytes → Prop
  | .response _ response _ _ =>
      response.payload.isSome ∨ response.signedCommand.isSome →
        ∀ request ∈ s.pump.outstanding,
          request.rejectedSequenceNum < response.sendSequenceNumber
  | _ => True

instance (s : Pipeline Keys SignedData Bytes Payload NodeId Channel) :
    (a : Occurrence Keys SignedData Bytes) → Decidable (s.Heeds a)
  | .response _ response _ _ =>
      inferInstanceAs (Decidable (response.payload.isSome ∨ response.signedCommand.isSome →
        ∀ request ∈ s.pump.outstanding,
          request.rejectedSequenceNum < response.sendSequenceNumber))
  | .feedback _ | .dispatchPump | .dispatchClient _ _ | .call _ | .configure _ _ _ =>
      inferInstanceAs (Decidable True)

/-- An occurrence that heeds leaves heeded lines. -/
theorem lines_heeded {a : Occurrence Keys SignedData Bytes} (hheeds : s.Heeds a) :
    s.exchange.Heeded (s.lines o framing a) := by
  cases a with
  | feedback | call | configure => exact trivial
  | dispatchPump =>
      simp only [lines]
      cases (s.commandPump.dispatch s.feedback).startPump with
      | none => exact trivial
      | some feedback =>
          exact ⟨fun _ hissue => absurd hissue (by simp [Line.command?]), fun _ _ => trivial⟩
  | dispatchClient controlTime draw =>
      simp only [lines]
      split
      · exact ⟨fun _ hissue => absurd hissue (by simp [Line.command?]), fun _ _ => trivial⟩
      · exact trivial
  | response statusOk response writeOk draw =>
      simp only [lines]
      split
      next => exact trivial
      next request houtstanding =>
        refine ⟨?_, fun _ _ => trivial⟩
        intro issue hissue request hrequest
        obtain ⟨emission, hemits, rfl⟩ := Option.map_eq_some_iff.1 hissue
        obtain ⟨-, hbrings, -, hnum, -⟩ := emission_eq_some_iff_command_payload.1 hemits
        exact lt_of_lt_of_eq (hheeds hbrings request hrequest) hnum.symm

/-- Hence a run of them leaves a heeded history. -/
theorem history_heeded {occurrences : List (Occurrence Keys SignedData Bytes)} (h : s.Settled)
    (hheeds : Along (step o framing) Heeds s occurrences) :
    s.exchange.Heeded (history (step o framing) (lines o framing) s occurrences) := by
  induction occurrences generalizing s with
  | nil => exact trivial
  | cons a occurrences ih =>
      have hwrites : Writes framing s (s.lines o framing a) (s.step o framing a) :=
        step_writes h a
      exact Exchange.heeded_append hwrites.exchange (lines_heeded hheeds.1)
        (ih hwrites.settled hheeds.2)

/-- Where the ground only sends commands with larger numbers than the one that the request reported
as rejected, a command that the sender refused is not emitted again, nor any with a smaller
number. -/
theorem refused_not_repeated (hpoller : GrpcPoller.init config draw = some poller)
    (sender : CommandSender NodeId Channel)
    {occurrences : List (Occurrence Keys SignedData Bytes)}
    (hheeds : Along (step o framing) Heeds
      (.start (.init targetEntity keys enabled requireSignedCommand) poller sender) occurrences) :
    (commands (history (step o framing) (lines o framing)
      (.start (.init targetEntity keys enabled requireSignedCommand) poller sender)
        occurrences)).Pairwise fun earlier later =>
      earlier.refused = true → earlier.emission.sequenceNum < later.emission.sequenceNum := by
  have hstart : (start (.init targetEntity keys enabled requireSignedCommand) poller sender :
      Pipeline Keys SignedData Bytes Payload NodeId Channel).Settled :=
    ⟨rfl, GrpcPoller.init_waiting hpoller⟩
  exact Exchange.pairwise_newer (run_accounts hpoller sender occurrences).exchange
    (history_heeded hstart hheeds)

/-- Command 8 is newer than command 7, which the channel did not take. -/
theorem second_try_not_repeated :
    (commands (history (step openKeystores plainFraming) (lines openKeystores plainFraming)
      secondStart secondTry)).Pairwise
        fun earlier later =>
          earlier.refused = true → earlier.emission.sequenceNum < later.emission.sequenceNum :=
  refused_not_repeated init_hourly relay (by decide +kernel)

/-! ## What is written -/

/-- The pump of a pipeline is stepped, or left alone. -/
theorem step_pump (o : Outside Keys SignedData Bytes Payload)
    (framing : Framing Payload Message NodeId Frame)
    (s : Pipeline Keys SignedData Bytes Payload NodeId Channel)
    (a : Occurrence Keys SignedData Bytes) :
    (s.step o framing a).pump = s.pump ∨ ∃ e, (s.step o framing a).pump = s.pump.step o e := by
  cases a with
  | feedback => exact .inl rfl
  | dispatchPump =>
      simp only [step]
      cases (s.commandPump.dispatch s.feedback).startPump with
      | none => exact .inl rfl
      | some feedback =>
          exact .inr ⟨.pumpNow feedback.acceptedSeqNum feedback.rejectedSeqNum, rfl⟩
  | dispatchClient controlTime draw => exact .inr ⟨.dispatch controlTime draw, rfl⟩
  | call c => exact .inr ⟨.call c, rfl⟩
  | configure keys enabled requireSignedCommand =>
      exact .inr ⟨.configure keys enabled requireSignedCommand, rfl⟩
  | response statusOk response writeOk draw =>
      simp only [step, respond]
      split
      next => exact .inl rfl
      next =>
        split
        next => exact .inr ⟨.response statusOk response ⟨true, false⟩ draw, rfl⟩
        next emission _ =>
          exact .inr ⟨.response statusOk response
            (s.sender.send framing emission.sequenceNum emission.payload writeOk).sent draw, rfl⟩

/-- What every step of the client and its poller keeps, a run of the pipeline keeps. -/
theorem pump_invariant {P : Pump Keys SignedData Bytes Payload → Prop} (hs : P s.pump)
    (hstep : ∀ pump e, P pump → P (pump.step o e))
    (occurrences : List (Occurrence Keys SignedData Bytes)) :
    P (run (step o framing) s occurrences).pump := by
  refine run_invariant (P := fun s : Pipeline Keys SignedData Bytes Payload NodeId Channel =>
    P s.pump) hs fun s a hs => ?_
  rcases step_pump o framing s a with hsame | ⟨e, hpump⟩
  · rwa [hsame]
  · rw [hpump]
    exact hstep s.pump e hs

/-- What is written has been translated and framed, and goes to the node that it is for. -/
theorem of_wrote {sender : CommandSender NodeId Channel} {issue : Issue Payload Channel Frame}
    {channel : Channel} {frame : Frame} (hhandled : issue.Handled framing sender)
    (hwrote : issue.wrote = some (channel, frame)) :
    ∃ vehicleMsg node, framing.writeMessage issue.emission.payload = some (vehicleMsg, node) ∧
      sender.relayChannels.lookup node = some channel ∧
      sender.frameOf framing issue.emission.sequenceNum vehicleMsg = some frame := by
  rw [hhandled.wrote, Issue.fate, CommandSender.fate] at hwrote
  split at hwrote
  next => cases hwrote
  next vehicleMsg node hmessage =>
    split at hwrote
    next => cases hwrote
    next frame' hframe =>
      split at hwrote
      next => cases hwrote
      next channel' hchannel =>
        split at hwrote
        · cases hwrote
          exact ⟨vehicleMsg, node, hmessage, hchannel, hframe⟩
        · cases hwrote

/-- The commands of a history are those that were delivered, in order. -/
theorem Accounts.delivery_of_command {sender : CommandSender NodeId Channel}
    {h : List (Line Payload Channel Frame)} (haccounts : Accounts framing sender h s) {n : Nat}
    {issue : Issue Payload Channel Frame} (hissue : (commands h)[n]? = some issue) :
    ∃ d, s.pump.deliveries.reverse[n]? = some d ∧ d.emission = issue.emission := by
  have hemissions : s.pump.deliveries.reverse.map (·.emission) = (commands h).map (·.emission) := by
    rw [List.map_reverse]
    exact haccounts.emissions
  have hemission : (s.pump.deliveries.reverse.map (·.emission))[n]? = some issue.emission := by
    rw [hemissions, List.getElem?_map, hissue]
    rfl
  rw [List.getElem?_map] at hemission
  exact Option.map_eq_some_iff.1 hemission

/-- Everything that is written to a channel is the frame of a command that was emitted, for the node
of that channel; if the client was in signed mode when it emitted the command, both signatures were
checked, and the command was meant for this vehicle and newer than what the client remembered. The
commands of the history are the deliveries in their order. -/
theorem written_authorized (hpoller : GrpcPoller.init config draw = some poller)
    (sender : CommandSender NodeId Channel)
    (occurrences : List (Occurrence Keys SignedData Bytes)) :
    let s : Pipeline Keys SignedData Bytes Payload NodeId Channel :=
      .start (.init targetEntity keys enabled requireSignedCommand) poller sender
    ∀ (n : Nat) (issue : Issue Payload Channel Frame),
      (commands (history (step o framing) (lines o framing) s occurrences))[n]? = some issue →
      ∃ d : Delivery Keys SignedData Bytes Payload,
        (run (step o framing) s occurrences).pump.deliveries.reverse[n]? = some d ∧
        d.emission = issue.emission ∧
        ∀ channel frame, issue.wrote = some (channel, frame) →
          (∃ vehicleMsg node,
            framing.writeMessage issue.emission.payload = some (vehicleMsg, node) ∧
              sender.relayChannels.lookup node = some channel ∧
              sender.frameOf framing issue.emission.sequenceNum vehicleMsg = some frame) ∧
          (d.client.requireSignedCommand = true →
            ∃ u, Authorizes o d.client d.response u d.emission.payload ∧
              u.tbs.targetId = targetEntity) := by
  intro s n issue hissue
  have haccounts : Accounts framing sender
      (history (step o framing) (lines o framing) s occurrences)
      (run (step o framing) s occurrences) := run_accounts hpoller sender occurrences
  obtain ⟨d, hd, hemission⟩ := haccounts.delivery_of_command hissue
  refine ⟨d, hd, hemission, fun channel frame hwrote => ⟨?_, fun hsigned => ?_⟩⟩
  · exact of_wrote (haccounts.handled issue (List.mem_of_getElem? hissue)) hwrote
  · have hsound : (run (step o framing) s occurrences).pump.Sound o targetEntity :=
      pump_invariant (P := Pump.Sound o targetEntity) ⟨rfl, fun _ hd => absurd hd List.not_mem_nil⟩
        (fun _ e h => Pump.step_sound h e) occurrences
    obtain ⟨htarget, statusOk, sent, hdelivered⟩ :=
      hsound.deliveries d (List.mem_reverse.1 (List.mem_of_getElem? hd))
    obtain ⟨-, -, u, hauthorizes⟩ := (emission_eq_some_iff hsigned).1 hdelivered
    exact ⟨u, hauthorizes, hauthorizes.genuine.target_id.symm.trans htarget⟩

/-- The uplink gets command 8, the second one, which is authorized. -/
theorem second_try_authorized :
    ∃ d, (run (step openKeystores plainFraming) secondStart secondTry).pump.deliveries.reverse[1]? =
        some d ∧ d.emission = ⟨8, "thrust"⟩ ∧
        ∃ u, Authorizes openKeystores d.client d.response u d.emission.payload := by
  have hwritten : ((commands (history (step openKeystores plainFraming)
      (lines openKeystores plainFraming) secondStart secondTry))[1]?.map fun issue =>
        (issue.emission, issue.wrote)) = some (⟨8, "thrust"⟩, some ("uplink", "thrust", 8)) := by
    decide +kernel
  have hsigned : ∀ d ∈
      (run (step openKeystores plainFraming) secondStart secondTry).pump.deliveries,
        d.client.requireSignedCommand = true := by decide +kernel
  obtain ⟨issue, hissue, heq⟩ := Option.map_eq_some_iff.1 hwritten
  obtain ⟨hemitted, hwrote⟩ := Prod.mk.inj heq
  obtain ⟨d, hd, hemission, hauthorized⟩ :=
    written_authorized init_hourly relay secondTry 1 issue hissue
  have hmem := List.mem_reverse.1 (List.mem_of_getElem? hd)
  obtain ⟨u, hauthorizes, -⟩ := (hauthorized _ _ hwrote).2 (hsigned d hmem)
  exact ⟨d, hd, hemission.trans hemitted, u, hauthorizes⟩

end Pipeline

end Codon.Command
