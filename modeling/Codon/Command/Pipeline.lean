import Codon.Command.Replay
import Codon.Command.Sender
import Codon.Library.History
import Codon.Library.Loop

/-!
# The way of a command

The three parts that a command passes, connected as their declarations say: `CommandPump`
(`CommandPump.cc`) sees what the vehicle accepted and rejected and calls `pump_now` of the
`CommandQueueClient`, whose `send_command_sig` calls `send` of the `CommandSender`. The vehicle,
the ground and the channels are the environment.

An exchange (`Exchange`) is what the requests to the ground are to say: the feedback that the pump
saw last, and the number of the last command that the sender refused. Every run of the three
keeps to it, whatever the environment does, and their counters and the commands on the channels
are those of its history (`run_accounts`).
-/

namespace Codon.Command

open Codon.Library Codon.Grpc

/-- What the vehicle has accepted and rejected: the tokens of the feedback reader. -/
structure Feedback where
  acceptedSeqNum : UInt32
  rejectedSeqNum : UInt32
  deriving DecidableEq

/-- `CommandPump`: the feedback that it saw last. -/
structure CommandPump where
  lastAcceptedSeqNum : UInt32
  lastRejectedSeqNum : UInt32

/-- What `CommandPump::dispatch` does and returns, with the call of `start_pump` if there is one. -/
structure Fed where
  commandPump : CommandPump
  startPump : Option Feedback
  nextControlTime : Int

/-- `CommandPump::dispatch`. -/
def CommandPump.dispatch (commandPump : CommandPump) (feedback : Feedback) : Fed :=
  if commandPump.lastAcceptedSeqNum ≠ feedback.acceptedSeqNum ∨
      commandPump.lastRejectedSeqNum ≠ feedback.rejectedSeqNum then
    ⟨⟨feedback.acceptedSeqNum, feedback.rejectedSeqNum⟩, some feedback, nanoTMax⟩
  else ⟨commandPump, none, nanoTMax⟩

variable {Keys SignedData Bytes Payload Message NodeId Channel Frame : Type}

/-- The command that a response makes the client emit. What its handler returns has no part in it
(`on_pump_response_emission`). -/
def CommandQueueClient.emits (o : Outside Keys SignedData Bytes Payload)
    (client : CommandQueueClient Keys) (statusOk : Bool)
    (response : PumpQueueResponse SignedData Bytes) : Option (Emission Payload) :=
  (client.onPumpResponse o statusOk response ⟨true, true⟩).emission

/-- The feedback, the pump, the client with its poller, and the sender. -/
structure Pipeline (Keys SignedData Bytes Payload NodeId Channel : Type) where
  feedback : Feedback
  commandPump : CommandPump
  pump : Pump Keys SignedData Bytes Payload
  sender : CommandSender NodeId Channel

/-- What happens to a pipeline. `writeOk` tells whether the channel takes the frame. -/
inductive Occurrence (Keys SignedData Bytes : Type) where
  | feedback (feedback : Feedback)
  | dispatchPump
  | dispatchClient (controlTime : Int) (draw : Draw)
  | response (statusOk : Bool) (response : PumpQueueResponse SignedData Bytes) (writeOk : Bool)
      (draw : Draw)
  | call (c : Call)
  | configure (keys : Keys) (enabled requireSignedCommand : Bool)

/-- A command that is emitted, and what the sender then writes and tells the client. -/
structure Issue (Payload Channel Frame : Type) where
  emission : Emission Payload
  writeOk : Bool
  wrote : Option (Channel × Frame)
  sent : Sent

/-- The client learns that the command was not issued. -/
def Issue.refused (issue : Issue Payload Channel Frame) : Bool :=
  issue.sent.ok && !issue.sent.issued

/-- A line of the history: new feedback is handed to the client, a request is made, or its response
comes, with the command that it brings. -/
inductive Line (Payload Channel Frame : Type) where
  | fed (feedback : Feedback)
  | asked (request : PumpQueueRequest)
  | answered (command : Option (Issue Payload Channel Frame))

namespace Pipeline

/-- Before the first feedback and the first request. -/
def start (client : CommandQueueClient Keys) (poller : GrpcPoller)
    (sender : CommandSender NodeId Channel) :
    Pipeline Keys SignedData Bytes Payload NodeId Channel :=
  ⟨⟨0, 0⟩, ⟨0, 0⟩, .start client poller, sender⟩

variable (o : Outside Keys SignedData Bytes Payload)
  (framing : Framing Payload Message NodeId Frame)
  (s : Pipeline Keys SignedData Bytes Payload NodeId Channel)

/-- The response to the outstanding request comes. -/
def respond (statusOk : Bool) (response : PumpQueueResponse SignedData Bytes) (writeOk : Bool)
    (draw : Draw) : Pipeline Keys SignedData Bytes Payload NodeId Channel :=
  match s.pump.client.emits o statusOk response with
  | none => { s with pump := s.pump.step o (.response statusOk response ⟨true, false⟩ draw) }
  | some emission =>
      let sending := s.sender.send framing emission.sequenceNum emission.payload writeOk
      { s with
        sender := sending.sender
        pump := s.pump.step o (.response statusOk response sending.sent draw) }

def step (s : Pipeline Keys SignedData Bytes Payload NodeId Channel) :
    Occurrence Keys SignedData Bytes → Pipeline Keys SignedData Bytes Payload NodeId Channel
  | .feedback feedback => { s with feedback }
  | .dispatchPump =>
      let fed := s.commandPump.dispatch s.feedback
      { s with
        commandPump := fed.commandPump
        pump :=
          match fed.startPump with
          | none => s.pump
          | some feedback =>
              s.pump.step o (.pumpNow feedback.acceptedSeqNum feedback.rejectedSeqNum) }
  | .dispatchClient controlTime draw =>
      { s with pump := s.pump.step o (.dispatch controlTime draw) }
  | .response statusOk response writeOk draw =>
      match s.pump.outstanding with
      | none => s
      | some _ => s.respond o framing statusOk response writeOk draw
  | .call c => { s with pump := s.pump.step o (.call c) }
  | .configure keys enabled requireSignedCommand =>
      { s with pump := s.pump.step o (.configure keys enabled requireSignedCommand) }

/-- What an occurrence adds to the history. -/
def lines (s : Pipeline Keys SignedData Bytes Payload NodeId Channel) :
    Occurrence Keys SignedData Bytes → List (Line Payload Channel Frame)
  | .feedback _ | .call _ | .configure _ _ _ => []
  | .dispatchPump => (s.commandPump.dispatch s.feedback).startPump.toList.map .fed
  | .dispatchClient controlTime draw =>
      if s.pump.client.enabled ∧ (s.pump.poller.dispatch controlTime draw).polled then
        [.asked s.pump.client.buildRequest.2]
      else []
  | .response statusOk response writeOk _ =>
      match s.pump.outstanding with
      | none => []
      | some _ =>
          [.answered ((s.pump.client.emits o statusOk response).map fun emission =>
            let sending := s.sender.send framing emission.sequenceNum emission.payload writeOk
            ⟨emission, writeOk, sending.wrote, sending.sent⟩)]

end Pipeline

/-! ## What the requests are to say -/

/-- The feedback that was handed to the client last, the number of the last command that the sender
refused, and the outstanding request. -/
structure Exchange where
  feedback : Feedback
  refused : UInt32
  outstanding : Option PumpQueueRequest

namespace Exchange

/-- Nothing has been said. -/
def start : Exchange := ⟨⟨0, 0⟩, 0, none⟩

/-- The next line of the history, if it is one that may come. -/
def next (x : Exchange) : Line Payload Channel Frame → Option Exchange
  | .fed feedback => some { x with feedback }
  | .asked request =>
      if x.outstanding = none ∧ request.acceptedSequenceNum = x.feedback.acceptedSeqNum ∧
          request.rejectedSequenceNum = max x.feedback.rejectedSeqNum x.refused then
        some { x with outstanding := some request }
      else none
  | .answered command =>
      if x.outstanding.isSome then
        let refused :=
          match command with
          | some issue => if issue.refused then issue.emission.sequenceNum else x.refused
          | none => x.refused
        some { x with refused, outstanding := none }
      else none

end Exchange

/-- The command that a line records. -/
def Line.command? : Line Payload Channel Frame → Option (Issue Payload Channel Frame)
  | .answered command => command
  | _ => none

/-- The commands of a history, in order. -/
def commands (h : List (Line Payload Channel Frame)) : List (Issue Payload Channel Frame) :=
  h.filterMap Line.command?

@[simp] theorem commands_nil : commands ([] : List (Line Payload Channel Frame)) = [] := rfl

@[simp] theorem commands_append (h h' : List (Line Payload Channel Frame)) :
    commands (h ++ h') = commands h ++ commands h' := List.filterMap_append

/-! ## What the client tells -/

namespace CommandQueueClient

variable {o : Outside Keys SignedData Bytes Payload} {client client' : CommandQueueClient Keys}
  {statusOk : Bool} {response : PumpQueueResponse SignedData Bytes} {sent : Sent}

/-- What a response has the client emit does not depend on what the sender makes of it. -/
theorem on_pump_response_emission :
    (client.onPumpResponse o statusOk response sent).emission = client.emits o statusOk response :=
  Option.ext fun _ =>
    emission_eq_some_iff_command_payload.trans emission_eq_some_iff_command_payload.symm

/-- The feedback that the client was told last. -/
def told (client : CommandQueueClient Keys) : Feedback :=
  ⟨client.acceptedSequenceNumber, client.rejectedSequenceNumber⟩

/-- The clients would tell the same in a request. -/
structure TellsAs (client client' : CommandQueueClient Keys) : Prop where
  told : client'.told = client.told
  refused : client'.sendFailedSequenceNum = client.sendFailedSequenceNum

/-- A command that fails the checks changes nothing that the client tells. -/
theorem checked_payload_error_tells {seqNum : UInt32} {outerEphemeralId innerEphemeralId : String}
    {tbs : TBSCommand Bytes}
    (h : client.checkedPayload o seqNum outerEphemeralId innerEphemeralId tbs = .error client') :
    client.TellsAs client' := by
  simp only [checkedPayload] at h
  split_ifs at h
  · cases h
    exact ⟨rfl, rfl⟩
  · cases h
    exact ⟨rfl, rfl⟩
  · cases h
    exact ⟨rfl, rfl⟩
  · split at h <;> cases h
    exact ⟨rfl, rfl⟩

/-- A response whose command is not emitted changes nothing that the client tells. -/
theorem command_payload_error_tells (h : client.commandPayload o response = .error client') :
    client.TellsAs client' := by
  unfold commandPayload signedPayload plainPayload at h
  repeat' split at h
  all_goals first
    | exact checked_payload_error_tells h
    | cases h <;> exact ⟨rfl, rfl⟩

/-- The number of the command that was refused last, once one is emitted and sent so. -/
def refusedAfter (client : CommandQueueClient Keys) (emission : Option (Emission Payload))
    (sent : Sent) : UInt32 :=
  match emission with
  | some emission =>
      if sent.ok && !sent.issued then emission.sequenceNum else client.sendFailedSequenceNum
  | none => client.sendFailedSequenceNum

/-- What a response leaves for the requests to tell. -/
theorem on_pump_response_tells (o : Outside Keys SignedData Bytes Payload)
    (client : CommandQueueClient Keys) (statusOk : Bool)
    (response : PumpQueueResponse SignedData Bytes) (sent : Sent) :
    (client.onPumpResponse o statusOk response sent).client.told = client.told ∧
      (client.onPumpResponse o statusOk response sent).client.sendFailedSequenceNum =
        client.refusedAfter (client.emits o statusOk response) sent := by
  have hemission : (client.onPumpResponse o statusOk response sent).emission =
      client.emits o statusOk response := on_pump_response_emission
  rw [← hemission]
  unfold onPumpResponse
  split
  next => exact ⟨rfl, rfl⟩
  next =>
    dsimp only
    split
    next =>
      split
      next => exact ⟨rfl, rfl⟩
      next =>
        split
        next herror =>
          have h := command_payload_error_tells herror
          exact ⟨h.told, h.refused⟩
        next payload _ =>
          unfold emit
          obtain ⟨ok, issued⟩ := sent
          cases ok <;> cases issued <;> exact ⟨rfl, rfl⟩
    next => exact ⟨rfl, rfl⟩

end CommandQueueClient

/-! ## What a step does -/

/-- What becomes of the command. -/
def Issue.fate (framing : Framing Payload Message NodeId Frame)
    (sender : CommandSender NodeId Channel) (issue : Issue Payload Channel Frame) :
    Fate Channel Frame :=
  sender.fate framing issue.emission issue.writeOk

/-- The sender does and tells what the fate of the command says. -/
structure Issue.Handled (framing : Framing Payload Message NodeId Frame)
    (sender : CommandSender NodeId Channel) (issue : Issue Payload Channel Frame) : Prop where
  wrote : issue.wrote = (issue.fate framing sender).wrote
  sent : issue.sent = (issue.fate framing sender).sent

namespace Pipeline

variable {o : Outside Keys SignedData Bytes Payload}
  {framing : Framing Payload Message NodeId Frame}
  {s : Pipeline Keys SignedData Bytes Payload NodeId Channel}
  {a : Occurrence Keys SignedData Bytes} {issue : Issue Payload Channel Frame}

/-- The exchange as the parts know it. -/
def exchange (s : Pipeline Keys SignedData Bytes Payload NodeId Channel) : Exchange :=
  ⟨s.pump.client.told, s.pump.client.sendFailedSequenceNum, s.pump.outstanding⟩

/-- The pump has seen what the client was told, and the poller waits for the response to the
outstanding request. -/
structure Settled (s : Pipeline Keys SignedData Bytes Payload NodeId Channel) : Prop where
  seen : s.commandPump = ⟨s.pump.client.told.acceptedSeqNum, s.pump.client.told.rejectedSeqNum⟩
  waiting : s.pump.poller.waitingOnResponse = s.pump.outstanding.isSome

/-- The emissions of the deliveries, in order. -/
def emissions (s : Pipeline Keys SignedData Bytes Payload NodeId Channel) :
    List (Emission Payload) :=
  (s.pump.deliveries.map (·.emission)).reverse

/-- What a step does that writes these lines. -/
structure Writes (framing : Framing Payload Message NodeId Frame)
    (s : Pipeline Keys SignedData Bytes Payload NodeId Channel)
    (lines : List (Line Payload Channel Frame))
    (s' : Pipeline Keys SignedData Bytes Payload NodeId Channel) : Prop where
  settled : s'.Settled
  exchange : lines.foldlM Exchange.next s.exchange = some s'.exchange
  sender : s'.sender =
    (commands lines).foldl (fun sender issue => sender.tick (issue.fate framing s.sender)) s.sender
  handled : ∀ issue ∈ commands lines, issue.Handled framing s.sender
  emissions : s'.emissions = s.emissions ++ (commands lines).map (·.emission)

/-- Feedback of the vehicle writes no line. -/
theorem feedback_writes (h : s.Settled) (feedback : Feedback) :
    Writes framing s (s.lines o framing (.feedback feedback))
      (s.step o framing (.feedback feedback)) where
  settled := ⟨h.seen, h.waiting⟩
  exchange := rfl
  sender := rfl
  handled _ hmem := absurd hmem List.not_mem_nil
  emissions := (List.append_nil _).symm

/-- A call of the poller writes no line. -/
theorem call_writes (h : s.Settled) (c : Call) :
    Writes framing s (s.lines o framing (.call c)) (s.step o framing (.call c)) where
  settled := ⟨h.seen, (s.pump.poller.call_keeps c).waiting_on_response.trans h.waiting⟩
  exchange := rfl
  sender := rfl
  handled _ hmem := absurd hmem List.not_mem_nil
  emissions := (List.append_nil _).symm

/-- Other keys and modes write no line. -/
theorem configure_writes (h : s.Settled) (keys : Keys) (enabled requireSignedCommand : Bool) :
    Writes framing s (s.lines o framing (.configure keys enabled requireSignedCommand))
      (s.step o framing (.configure keys enabled requireSignedCommand)) where
  settled := ⟨h.seen, h.waiting⟩
  exchange := rfl
  sender := rfl
  handled _ hmem := absurd hmem List.not_mem_nil
  emissions := (List.append_nil _).symm

/-- The pump hands on feedback that it has not seen. -/
theorem dispatch_pump_writes (h : s.Settled) :
    Writes framing s (s.lines o framing .dispatchPump) (s.step o framing .dispatchPump) := by
  simp only [lines, step, CommandPump.dispatch]
  split
  next hnew =>
    exact ⟨⟨rfl, h.waiting⟩, rfl, rfl, fun _ hmem => absurd hmem List.not_mem_nil,
      (List.append_nil _).symm⟩
  next hsame =>
    exact ⟨⟨h.seen, h.waiting⟩, rfl, rfl, fun _ hmem => absurd hmem List.not_mem_nil,
      (List.append_nil _).symm⟩

/-- A dispatch of the client writes the request, if it polls. -/
theorem dispatch_client_writes (h : s.Settled) (controlTime : Int) (draw : Draw) :
    Writes framing s (s.lines o framing (.dispatchClient controlTime draw))
      (s.step o framing (.dispatchClient controlTime draw)) := by
  by_cases henabled : s.pump.client.enabled = true
  · by_cases hpolled : (s.pump.poller.dispatch controlTime draw).polled = true
    · -- the poller does not poll while it waits for a response
      have hidle : s.pump.outstanding = none := by
        rw [← Option.not_isSome_iff_eq_none, ← h.waiting,
          GrpcPoller.not_waiting_of_polled hpolled]
        exact Bool.false_ne_true
      have hstep : s.step o framing (.dispatchClient controlTime draw) =
          { s with
            pump :=
              { s.pump with
                client := s.pump.client.buildRequest.1
                poller := (s.pump.poller.dispatch controlTime draw).poller
                outstanding := some s.pump.client.buildRequest.2 } } := by
        simp only [step, Pump.step, henabled, hpolled, not_true_eq_false, if_false, if_true]
      have hlines : s.lines o framing (.dispatchClient controlTime draw) =
          [.asked s.pump.client.buildRequest.2] := if_pos ⟨henabled, hpolled⟩
      have hasked : s.exchange.next
          (.asked s.pump.client.buildRequest.2 : Line Payload Channel Frame) =
            some { s.exchange with outstanding := some s.pump.client.buildRequest.2 } :=
        if_pos ⟨hidle, rfl, rfl⟩
      rw [hstep, hlines]
      refine ⟨⟨h.seen, ?_⟩, ?_, rfl, fun _ hmem => absurd hmem List.not_mem_nil,
        (List.append_nil _).symm⟩
      · show (s.pump.poller.dispatch controlTime draw).poller.waitingOnResponse = true
        rw [GrpcPoller.dispatch_waiting, hpolled, Bool.or_true]
      · rw [List.foldlM_cons, hasked]
        rfl
    · have hstep : s.step o framing (.dispatchClient controlTime draw) =
          { s with
            pump :=
              { s.pump with poller := (s.pump.poller.dispatch controlTime draw).poller } } := by
        simp only [step, Pump.step, henabled, hpolled, not_true_eq_false, if_false,
          Bool.false_eq_true]
      have hlines : s.lines o framing (.dispatchClient controlTime draw) = [] :=
        if_neg fun hasks => hpolled hasks.2
      rw [hstep, hlines]
      refine ⟨⟨h.seen, ?_⟩, rfl, rfl, fun _ hmem => absurd hmem List.not_mem_nil,
        (List.append_nil _).symm⟩
      show (s.pump.poller.dispatch controlTime draw).poller.waitingOnResponse =
        s.pump.outstanding.isSome
      rw [GrpcPoller.dispatch_waiting, Bool.eq_false_iff.2 hpolled, Bool.or_false]
      exact h.waiting
  · have hstep : s.step o framing (.dispatchClient controlTime draw) = s := by
      simp only [step, Pump.step, henabled, not_false_eq_true, if_true, Bool.false_eq_true]
    have hlines : s.lines o framing (.dispatchClient controlTime draw) = [] :=
      if_neg fun hasks => henabled hasks.1
    rw [hstep, hlines]
    exact ⟨h, rfl, rfl, fun _ hmem => absurd hmem List.not_mem_nil, (List.append_nil _).symm⟩

/-- A response settles the outstanding request, whatever command it brings and the sender does. -/
theorem respond_writes {request : PumpQueueRequest} {statusOk : Bool}
    {response : PumpQueueResponse SignedData Bytes} {sent : Sent} {draw : Draw}
    {command : Option (Issue Payload Channel Frame)} (h : s.Settled)
    (houtstanding : s.pump.outstanding = some request)
    (hcommand : command.map (·.emission) = s.pump.client.emits o statusOk response)
    (hsent : ∀ issue ∈ command, issue.sent = sent)
    (hhandled : ∀ issue ∈ command, issue.Handled framing s.sender) :
    Writes framing s [.answered command]
      { s with
        sender := command.toList.foldl
          (fun sender issue => sender.tick (issue.fate framing s.sender)) s.sender
        pump := s.pump.step o (.response statusOk response sent draw) } := by
  obtain ⟨htold, hrefused⟩ :=
    s.pump.client.on_pump_response_tells o statusOk response sent
  have hcommands : commands [Line.answered command] = command.toList := by
    cases command <;> rfl
  have hstep : s.pump.step o (.response statusOk response sent draw) =
      s.pump.respond o request statusOk response sent draw := by
    simp only [Pump.step, houtstanding]
  rw [hstep]
  refine ⟨⟨?_, s.pump.poller.on_response_waiting statusOk [] draw⟩, ?_, ?_, ?_, ?_⟩
  · show s.commandPump = ⟨(s.pump.client.onPumpResponse o statusOk response sent).client.told.1,
      (s.pump.client.onPumpResponse o statusOk response sent).client.told.2⟩
    rw [htold]
    exact h.seen
  · -- a response comes only while a request is outstanding
    have hopen : s.exchange.outstanding.isSome = true := by
      show s.pump.outstanding.isSome = true
      rw [houtstanding]
      rfl
    have hnext : s.exchange.next (.answered command) =
        some ⟨s.pump.client.told,
          s.pump.client.refusedAfter (command.map (·.emission)) sent, none⟩ := by
      cases command with
      | none => exact if_pos hopen
      | some issue =>
          have hissue : issue.refused = (sent.ok && !sent.issued) := by
            rw [Issue.refused, hsent issue rfl]
          simp only [Exchange.next, hopen, if_true, hissue]
          rfl
    rw [List.foldlM_cons, hnext, hcommand, ← hrefused, ← htold]
    rfl
  · rw [hcommands]
  · rw [hcommands]
    exact fun issue hmem => hhandled issue (Option.mem_toList.1 hmem)
  · have hemission : (s.pump.client.onPumpResponse o statusOk response sent).emission =
        command.map (·.emission) :=
      CommandQueueClient.on_pump_response_emission.trans hcommand.symm
    rw [hcommands]
    simp only [emissions, Pump.respond, hemission]
    cases command <;> simp

/-- A response writes the command that it has emitted, with what became of it. -/
theorem response_writes (h : s.Settled) (statusOk : Bool)
    (response : PumpQueueResponse SignedData Bytes) (writeOk : Bool) (draw : Draw) :
    Writes framing s (s.lines o framing (.response statusOk response writeOk draw))
      (s.step o framing (.response statusOk response writeOk draw)) := by
  cases houtstanding : s.pump.outstanding with
  | none =>
      simp only [lines, step, houtstanding]
      exact ⟨h, rfl, rfl, fun _ hmem => absurd hmem List.not_mem_nil, (List.append_nil _).symm⟩
  | some request =>
      simp only [lines, step, respond, houtstanding]
      cases hemits : s.pump.client.emits o statusOk response with
      | none =>
          exact respond_writes h houtstanding hemits.symm (fun _ hmem => absurd hmem (by simp))
            fun _ hmem => absurd hmem (by simp)
      | some emission =>
          dsimp only [Option.map_some]
          rw [CommandSender.send_eq]
          refine respond_writes h houtstanding hemits.symm ?_ ?_
          · rintro issue hissue
            cases hissue
            rfl
          · rintro issue hissue
            cases hissue
            exact ⟨rfl, rfl⟩

/-- Every occurrence writes its lines. -/
theorem step_writes (h : s.Settled) (a : Occurrence Keys SignedData Bytes) :
    Writes framing s (s.lines o framing a) (s.step o framing a) := by
  cases a with
  | feedback feedback => exact feedback_writes h feedback
  | dispatchPump => exact dispatch_pump_writes h
  | dispatchClient controlTime draw => exact dispatch_client_writes h controlTime draw
  | response statusOk response writeOk draw =>
      exact response_writes h statusOk response writeOk draw
  | call c => exact call_writes h c
  | configure keys enabled requireSignedCommand =>
      exact configure_writes h keys enabled requireSignedCommand

/-! ## What a run does -/

/-- The senders would give every command the same fate. -/
def SameFates (framing : Framing Payload Message NodeId Frame)
    (sender sender' : CommandSender NodeId Channel) : Prop :=
  ∀ (emission : Emission Payload) writeOk,
    sender'.fate framing emission writeOk = sender.fate framing emission writeOk

/-- The history says what the requests told, what the counters show and what was emitted, and the
sender has done with each command what its fate says. -/
structure Accounts (framing : Framing Payload Message NodeId Frame)
    (sender : CommandSender NodeId Channel) (h : List (Line Payload Channel Frame))
    (s : Pipeline Keys SignedData Bytes Payload NodeId Channel) : Prop where
  settled : s.Settled
  exchange : h.foldlM Exchange.next .start = some s.exchange
  same_fates : SameFates framing sender s.sender
  counter : ∀ c, s.sender.counter c = sender.counter c +
    .ofNat ((commands h).countP fun issue => (issue.fate framing sender).counter = some c)
  handled : ∀ issue ∈ commands h, issue.Handled framing sender
  emissions : s.emissions = (commands h).map (·.emission)

/-- What becomes of a command does not depend on the counters. -/
theorem foldl_tick_same_fates (issues : List (Issue Payload Channel Frame))
    (base sender : CommandSender NodeId Channel) :
    SameFates framing sender
      (issues.foldl (fun sender issue => sender.tick (issue.fate framing base)) sender) := by
  induction issues generalizing sender with
  | nil => exact fun _ _ => rfl
  | cons issue issues ih =>
      intro emission writeOk
      exact (ih _ emission writeOk).trans (CommandSender.fate_tick _)

/-- A counter grows by the commands whose fate it counts. -/
theorem foldl_tick_counter (issues : List (Issue Payload Channel Frame))
    (base sender : CommandSender NodeId Channel) (c : Counter) :
    (issues.foldl (fun sender issue => sender.tick (issue.fate framing base)) sender).counter c =
      sender.counter c +
        .ofNat (issues.countP fun issue => (issue.fate framing base).counter = some c) := by
  induction issues generalizing sender with
  | nil => exact (UInt32.add_zero _).symm
  | cons issue issues ih =>
      rw [List.foldl_cons, ih, CommandSender.counter_tick, List.countP_cons, UInt32.ofNat_add,
        UInt32.add_assoc, UInt32.add_comm (UInt32.ofNat _)]
      congr 2
      by_cases hcounts : (issue.fate framing base).counter = some c <;> simp [hcounts]

/-- The lines of a step are added to the account. -/
theorem Accounts.append {sender : CommandSender NodeId Channel}
    {h lines : List (Line Payload Channel Frame)}
    {s' : Pipeline Keys SignedData Bytes Payload NodeId Channel}
    (haccounts : Accounts framing sender h s) (hwrites : Writes framing s lines s') :
    Accounts framing sender (h ++ lines) s' := by
  have hfate (issue : Issue Payload Channel Frame) :
      issue.fate framing s.sender = issue.fate framing sender :=
    haccounts.same_fates issue.emission issue.writeOk
  refine ⟨hwrites.settled, ?_, ?_, ?_, ?_, ?_⟩
  · rw [List.foldlM_append, haccounts.exchange]
    exact hwrites.exchange
  · intro emission writeOk
    rw [hwrites.sender]
    exact (foldl_tick_same_fates _ _ _ emission writeOk).trans
      (haccounts.same_fates emission writeOk)
  · intro c
    rw [hwrites.sender, foldl_tick_counter, haccounts.counter, commands_append, List.countP_append,
      UInt32.ofNat_add, UInt32.add_assoc]
    simp only [hfate]
  · intro issue hmem
    rw [commands_append, List.mem_append] at hmem
    rcases hmem with hearlier | hnew
    · exact haccounts.handled issue hearlier
    · have hhandled := hwrites.handled issue hnew
      exact ⟨hfate issue ▸ hhandled.wrote, hfate issue ▸ hhandled.sent⟩
  · rw [hwrites.emissions, haccounts.emissions, commands_append, List.map_append]

variable {targetEntity : String} {keys : Keys} {enabled requireSignedCommand : Bool}
  {config : GrpcPollerConfig} {draw : Draw} {poller : GrpcPoller}

/-- At the start there is nothing to account for. -/
theorem start_accounts (hpoller : GrpcPoller.init config draw = some poller)
    (sender : CommandSender NodeId Channel) :
    Accounts framing sender ([] : List (Line Payload Channel Frame))
      (.start (.init targetEntity keys enabled requireSignedCommand) poller sender :
        Pipeline Keys SignedData Bytes Payload NodeId Channel) where
  settled := ⟨rfl, GrpcPoller.init_waiting hpoller⟩
  exchange := rfl
  same_fates _ _ := rfl
  counter _ := (UInt32.add_zero _).symm
  handled _ hmem := absurd hmem List.not_mem_nil
  emissions := rfl

/-- Every run is accounted for. -/
theorem run_accounts (hpoller : GrpcPoller.init config draw = some poller)
    (sender : CommandSender NodeId Channel)
    (occurrences : List (Occurrence Keys SignedData Bytes)) :
    Accounts framing sender
      (history (step o framing) (lines o framing)
        (.start (.init targetEntity keys enabled requireSignedCommand) poller sender) occurrences)
      (run (step o framing)
        (.start (.init targetEntity keys enabled requireSignedCommand) poller sender)
        occurrences) :=
  history_invariant (start_accounts hpoller sender)
    (fun _ _ a haccounts => haccounts.append (step_writes haccounts.settled a)) occurrences

end Pipeline

/-! ## What the history says -/

/-- The feedback that a line hands on. -/
def Line.feedback? : Line Payload Channel Frame → Option Feedback
  | .fed feedback => some feedback
  | _ => none

/-- The line makes a request. -/
def Line.asks : Line Payload Channel Frame → Bool
  | .asked _ => true
  | _ => false

/-- The line answers a request. -/
def Line.answers : Line Payload Channel Frame → Bool
  | .answered _ => true
  | _ => false

/-- The feedback that was handed to the client last. -/
def lastFeedback (h : List (Line Payload Channel Frame)) : Feedback :=
  (h.filterMap Line.feedback?).getLastD ⟨0, 0⟩

/-- The number of the command that was refused last. -/
def lastRefused (h : List (Line Payload Channel Frame)) : UInt32 :=
  (((commands h).filter (·.refused)).map (·.emission.sequenceNum)).getLastD 0

/-- Every request tells the last feedback and the last refused number before it, and requests and
answers take turns. -/
structure Truthful (h : List (Line Payload Channel Frame)) : Prop where
  asked {earlier later : List (Line Payload Channel Frame)} {request : PumpQueueRequest} :
    h = earlier ++ .asked request :: later →
      request.acceptedSequenceNum = (lastFeedback earlier).acceptedSeqNum ∧
        request.rejectedSequenceNum =
          max (lastFeedback earlier).rejectedSeqNum (lastRefused earlier) ∧
        earlier.countP Line.asks = earlier.countP Line.answers
  answered {earlier later : List (Line Payload Channel Frame)}
    {command : Option (Issue Payload Channel Frame)} :
    h = earlier ++ .answered command :: later →
      earlier.countP Line.asks = earlier.countP Line.answers + 1

namespace Exchange

variable {x x' : Exchange} {line : Line Payload Channel Frame}
  {h : List (Line Payload Channel Frame)}

/-- The exchange is what the lines so far say. -/
structure Sums (h : List (Line Payload Channel Frame)) (x : Exchange) : Prop where
  feedback : x.feedback = lastFeedback h
  refused : x.refused = lastRefused h
  balance : h.countP Line.asks = h.countP Line.answers + x.outstanding.toList.length

/-- A line without a command leaves the command that was refused last. -/
theorem last_refused_of_none (hline : line.command? = none) :
    lastRefused (h ++ [line]) = lastRefused h := by
  simp only [lastRefused, commands, List.filterMap_append, List.filterMap_cons_none hline,
    List.filterMap_nil, List.append_nil]

/-- A command that is refused is the last one from then on. -/
theorem last_refused_of_some {issue : Issue Payload Channel Frame}
    (hline : line.command? = some issue) :
    lastRefused (h ++ [line]) =
      if issue.refused then issue.emission.sequenceNum else lastRefused h := by
  simp only [lastRefused, commands, List.filterMap_append, List.filterMap_cons_some hline,
    List.filterMap_nil, List.filter_append]
  cases hissue : issue.refused <;> simp [hissue]

/-- One more line keeps the sums. -/
theorem Sums.next (hsums : x.Sums h) (hnext : x.next line = some x') : x'.Sums (h ++ [line]) := by
  cases line with
  | fed feedback =>
      cases hnext
      refine ⟨?_, ?_, ?_⟩
      · simp [lastFeedback, Line.feedback?]
      · exact hsums.refused.trans (last_refused_of_none rfl).symm
      · simpa [Line.asks, Line.answers] using hsums.balance
  | asked request =>
      simp only [Exchange.next, Option.ite_none_right_eq_some] at hnext
      obtain ⟨⟨hidle, -, -⟩, hx'⟩ := hnext
      have hbalance := hsums.balance
      cases hx'
      refine ⟨?_, ?_, ?_⟩
      · simpa [lastFeedback, Line.feedback?] using hsums.feedback
      · exact hsums.refused.trans (last_refused_of_none rfl).symm
      · simpa [Line.asks, Line.answers, hidle] using hbalance
  | answered command =>
      simp only [Exchange.next, Option.ite_none_right_eq_some] at hnext
      obtain ⟨hsome, hx'⟩ := hnext
      obtain ⟨request, hrequest⟩ := Option.isSome_iff_exists.1 hsome
      have hbalance := hsums.balance
      have hrefused := hsums.refused
      cases hx'
      refine ⟨?_, ?_, ?_⟩
      · simpa [lastFeedback, Line.feedback?] using hsums.feedback
      · cases command with
        | none => exact hrefused.trans (last_refused_of_none rfl).symm
        | some issue =>
            rw [last_refused_of_some rfl, ← hrefused]
      · simpa [Line.asks, Line.answers, hrequest] using hbalance

/-- The sums are right after any lines. -/
theorem sums_of_run (hrun : h.foldlM next .start = some x) : x.Sums h :=
  foldlM_prefix hrun (P := fun h x => Sums h x) ⟨rfl, rfl, rfl⟩
    fun _ _ _ _ hsums hnext => hsums.next hnext

/-- A history that keeps to the exchange is truthful. -/
theorem truthful_of_run (hrun : h.foldlM next .start = some x) : Truthful h := by
  constructor
  · rintro earlier later request rfl
    rw [List.foldlM_append] at hrun
    obtain ⟨y, hy, hlater⟩ := Option.bind_eq_some_iff.1 hrun
    obtain ⟨z, hz, -⟩ := Option.bind_eq_some_iff.1 hlater
    have hsums := sums_of_run hy
    simp only [next, Option.ite_none_right_eq_some] at hz
    obtain ⟨⟨hidle, haccepted, hrejected⟩, -⟩ := hz
    have hbalance := hsums.balance
    rw [hidle] at hbalance
    rw [hsums.feedback] at haccepted
    rw [hsums.feedback, hsums.refused] at hrejected
    exact ⟨haccepted, hrejected, hbalance⟩
  · rintro earlier later command rfl
    rw [List.foldlM_append] at hrun
    obtain ⟨y, hy, hlater⟩ := Option.bind_eq_some_iff.1 hrun
    obtain ⟨z, hz, -⟩ := Option.bind_eq_some_iff.1 hlater
    simp only [next, Option.ite_none_right_eq_some] at hz
    obtain ⟨request, hrequest⟩ := Option.isSome_iff_exists.1 hz.1
    have hbalance := (sums_of_run hy).balance
    rw [hrequest] at hbalance
    exact hbalance

end Exchange

/-- Payloads are translated as they are, and framed with their number. Only the flight computer's
are. -/
def plainFraming : Framing String String Unit (String × UInt32) where
  writeMessage payload := if payload = "" then none else some (payload, "flight-computer")
  prepareTransport vehicleMsg _ _ := some vehicleMsg
  init vehicleMsg _ _ _ sequenceNumber := some (vehicleMsg, sequenceNumber)

/-- The poller with the default configuration. -/
def hourlyPoller : GrpcPoller := (GrpcPoller.init hourly .least).get rfl

/-- The sample's configuration is accepted. -/
theorem init_hourly : GrpcPoller.init hourly .least = some hourlyPoller :=
  (Option.some_get _).symm

/-- The relay of the flight computer. -/
def relay : CommandSender Unit String where
  clientNodeId := ()
  relayChannels := [("flight-computer", "uplink")]
  metricsWrites := 0
  errorsTranslateFailed := 0
  errorsInvalidNode := 0
  errorsWriteFailed := 0

/-- The first satellite in signed mode, with its relay. -/
def secondStart : Pipeline Unit Sealed String String Unit String :=
  .start (.init "sat-1" () true true) hourlyPoller relay

/-- The vehicle has accepted command 5. The channel does not take command 7, and takes command 8 in
the next hour. -/
def secondTry : List (Occurrence Unit Sealed String) :=
  [.feedback ⟨5, 0⟩, .dispatchPump, .dispatchClient (100 * billion) .least,
    .response true commandSeven false .least, .dispatchClient (4000 * billion) .least,
    .response true { commandSeven with
      sendSequenceNumber := 8
      signedCommand := some ⟨⟨"8", "operator-4", "sat-1", "thrust"⟩, "", ""⟩ } true .least]

namespace Pipeline

variable {o : Outside Keys SignedData Bytes Payload}
  {framing : Framing Payload Message NodeId Frame}
  {targetEntity : String} {keys : Keys} {enabled requireSignedCommand : Bool}
  {config : GrpcPollerConfig} {draw : Draw} {poller : GrpcPoller}

/-- Whatever the vehicle, the ground and the channels do, the requests tell the feedback that the
pump saw last and the number that was refused last, and the counters, the deliveries and what is
written to the channels are those of the history. -/
theorem requests_truthful (hpoller : GrpcPoller.init config draw = some poller)
    (sender : CommandSender NodeId Channel)
    (occurrences : List (Occurrence Keys SignedData Bytes)) :
    let s : Pipeline Keys SignedData Bytes Payload NodeId Channel :=
      .start (.init targetEntity keys enabled requireSignedCommand) poller sender
    let h := history (step o framing) (lines o framing) s occurrences
    let s' := run (step o framing) s occurrences
    Truthful h ∧
      (∀ issue ∈ commands h, issue.Handled framing sender) ∧
      (∀ c, s'.sender.counter c = sender.counter c +
        .ofNat ((commands h).countP fun issue =>
          (issue.fate framing sender).counter = some c)) ∧
      s'.emissions = (commands h).map (·.emission) := by
  intro s h s'
  have haccounts : Accounts framing sender h s' := run_accounts hpoller sender occurrences
  exact ⟨Exchange.truthful_of_run haccounts.exchange, haccounts.handled, haccounts.counter,
    haccounts.emissions⟩

/-- Two commands are emitted, and the second gets through. -/
theorem second_try_truthful :
    let h := history (step openKeystores plainFraming) (lines openKeystores plainFraming)
      secondStart secondTry
    Truthful h ∧ (commands h).map (·.wrote) = [none, some ("uplink", "thrust", 8)] ∧
      (run (step openKeystores plainFraming) secondStart secondTry).sender.counter .writes = 1 :=
  ⟨(requests_truthful init_hourly relay secondTry).1, by decide +kernel, by decide +kernel⟩

end Pipeline

end Codon.Command
