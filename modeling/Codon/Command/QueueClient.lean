import Codon.Grpc.Poller

/-!
# The command queue client

`CommandQueueClient` of `CommandQueueClient.cc`, after `init`, together with the poller that
makes its calls. A request reports the sequence numbers of commands that are done with, and
the response to it may bring the next command, which is signed twice. The keystores, the
parsers and the handler of the command are outside the repository (`Outside`, `Sent`).
-/

namespace Codon.Command

open Codon.Library Codon.Grpc

/-- What the client reads of a `TBSCommand`. -/
structure TBSCommand (Bytes : Type) where
  commandId : String
  creationInfoId : String
  targetId : String
  commandPayload : Bytes

/-- A `PumpQueueResponse`, with `none` for what `has_payload` and `has_signed_command` deny. -/
structure PumpQueueResponse (SignedData Bytes : Type) where
  sendSequenceNumber : UInt32
  payload : Option Bytes
  signedCommand : Option SignedData

/-- A `PumpQueueRequest`. -/
structure PumpQueueRequest where
  targetSatelliteId : String
  acceptedSequenceNum : UInt32
  rejectedSequenceNum : UInt32
  requireSigned : Bool
  deriving DecidableEq

/-- The code that the client calls. An `unwrap` of a keystore gives what was signed and the
ephemeral id, or fails. `stringToUint` gives what is left in its output, whatever it returns. -/
structure Outside (Keys SignedData Bytes Payload : Type) where
  commandAuthUnwrap : Keys → SignedData → Option (SignedData × String)
  operatorUnwrap : Keys → SignedData → Option (TBSCommand Bytes × String)
  stringToUint : String → UInt32 → UInt32
  fromProtobuf : Bytes → Option Payload

/-- What the handler of `send_command_sig` returns, and whether it issued the command. -/
structure Sent where
  ok : Bool
  issued : Bool

/-- What `send_command_sig` is emitted with. -/
structure Emission (Payload : Type) where
  sequenceNum : UInt32
  payload : Payload
  deriving DecidableEq

/-- `CommandQueueClient`: the keys of its two keystores and its slate tokens. -/
structure CommandQueueClient (Keys : Type) where
  targetEntity : String
  keys : Keys
  lastSendSequenceNum : UInt32
  sendFailedSequenceNum : UInt32
  returnedWithCommand : UInt32
  acceptedSequenceNumber : UInt32
  rejectedSequenceNumber : UInt32
  lastRequestAcceptedSeqNum : UInt32
  lastRequestRejectedSeqNum : UInt32
  wrongSignatureState : UInt32
  signedSeqNumCheckFailed : UInt32
  ephemeralIdCheckFailed : UInt32
  invalidCommandPayloadEncoding : UInt32
  targetIdCheckFailed : UInt32
  enabled : Bool
  requireSignedCommand : Bool

/-- What `on_pump_response` does and returns. -/
structure Pumped (Keys Payload : Type) where
  client : CommandQueueClient Keys
  emission : Option (Emission Payload)
  ok : Bool

variable {Keys SignedData Bytes Payload : Type}

namespace CommandQueueClient

/-- `CommandQueueClient::init`. The last two tokens are bound, and set by others. -/
def init (targetEntity : String) (keys : Keys) (enabled requireSignedCommand : Bool) :
    CommandQueueClient Keys where
  targetEntity
  keys
  lastSendSequenceNum := 0
  sendFailedSequenceNum := 0
  returnedWithCommand := 0
  acceptedSequenceNumber := 0
  rejectedSequenceNumber := 0
  lastRequestAcceptedSeqNum := 0
  lastRequestRejectedSeqNum := 0
  wrongSignatureState := 0
  signedSeqNumCheckFailed := 0
  ephemeralIdCheckFailed := 0
  invalidCommandPayloadEncoding := 0
  targetIdCheckFailed := 0
  enabled
  requireSignedCommand

/-- `CommandQueueClient::pump_now`, which ends with `force_retry` of the poller. -/
def pumpNow (client : CommandQueueClient Keys)
    (acceptedSequenceNum rejectedSequenceNum : UInt32) : CommandQueueClient Keys :=
  { client with
    acceptedSequenceNumber := acceptedSequenceNum
    rejectedSequenceNumber := rejectedSequenceNum }

/-- `CommandQueueClient::build_request`. -/
def buildRequest (client : CommandQueueClient Keys) :
    CommandQueueClient Keys × PumpQueueRequest :=
  let request :=
    { targetSatelliteId := client.targetEntity
      acceptedSequenceNum := client.acceptedSequenceNumber
      rejectedSequenceNum := max client.rejectedSequenceNumber client.sendFailedSequenceNum
      requireSigned := client.requireSignedCommand }
  ({ client with
      lastRequestAcceptedSeqNum := client.acceptedSequenceNumber
      lastRequestRejectedSeqNum := client.rejectedSequenceNumber },
    request)

variable (o : Outside Keys SignedData Bytes Payload) (client : CommandQueueClient Keys)

/-- The payload of a signed command once it is unwrapped, or the client as the first check that
fails leaves it. -/
def checkedPayload (seqNum : UInt32) (outerEphemeralId innerEphemeralId : String)
    (tbs : TBSCommand Bytes) : Except (CommandQueueClient Keys) Payload :=
  -- a text that is no number leaves the id at zero
  let commandId := o.stringToUint tbs.commandId 0
  -- any number is accepted until a command has been, as after a reboot
  if seqNum ≠ commandId ∨
      0 < client.acceptedSequenceNumber ∧
        commandId ≤ max client.lastRequestAcceptedSeqNum client.lastRequestRejectedSeqNum then
    .error { client with signedSeqNumCheckFailed := client.signedSeqNumCheckFailed + 1 }
  -- a layer that gives no ephemeral id is not compared
  else if outerEphemeralId ≠ "" ∧ outerEphemeralId ≠ tbs.creationInfoId ∨
      innerEphemeralId ≠ "" ∧ innerEphemeralId ≠ tbs.creationInfoId then
    .error { client with ephemeralIdCheckFailed := client.ephemeralIdCheckFailed + 1 }
  else if client.targetEntity ≠ tbs.targetId then
    .error { client with targetIdCheckFailed := client.targetIdCheckFailed + 1 }
  else
    match o.fromProtobuf tbs.commandPayload with
    | none =>
        .error { client with
          invalidCommandPayloadEncoding := client.invalidCommandPayloadEncoding + 1 }
    | some payload => .ok payload

/-- The payload of a signed command, or the client as the first check that fails leaves it. -/
def signedPayload (response : PumpQueueResponse SignedData Bytes) :
    Except (CommandQueueClient Keys) Payload :=
  match response.signedCommand with
  | none => .error { client with wrongSignatureState := client.wrongSignatureState + 1 }
  | some signedCommand =>
      -- the outer command authorization layer
      match o.commandAuthUnwrap client.keys signedCommand with
      | none => .error client
      | some (singleSigned, outerEphemeralId) =>
          -- the inner NOC signature layer
          match o.operatorUnwrap client.keys singleSigned with
          | none => .error client
          | some (tbs, innerEphemeralId) =>
              client.checkedPayload o response.sendSequenceNumber outerEphemeralId
                innerEphemeralId tbs

/-- The payload of an unsigned command, or the client as the check that fails leaves it. -/
def plainPayload (response : PumpQueueResponse SignedData Bytes) :
    Except (CommandQueueClient Keys) Payload :=
  match response.payload with
  | none => .error { client with wrongSignatureState := client.wrongSignatureState + 1 }
  | some bytes =>
      match o.fromProtobuf bytes with
      | none =>
          .error { client with
            invalidCommandPayloadEncoding := client.invalidCommandPayloadEncoding + 1 }
      | some payload => .ok payload

/-- The payload of the command that the response brings, signed or not as the client requires. -/
def commandPayload (response : PumpQueueResponse SignedData Bytes) :
    Except (CommandQueueClient Keys) Payload :=
  if client.requireSignedCommand then client.signedPayload o response
  else client.plainPayload o response

/-- `send_command_sig` is emitted. -/
def emit (emission : Emission Payload) (sent : Sent) : Pumped Keys Payload :=
  if ¬ sent.ok then ⟨client, some emission, false⟩
  else if ¬ sent.issued then
    ⟨{ client with sendFailedSequenceNum := emission.sequenceNum }, some emission, true⟩
  else ⟨client, some emission, true⟩

/-- `CommandQueueClient::on_pump_response`. -/
def onPumpResponse (statusOk : Bool) (response : PumpQueueResponse SignedData Bytes)
    (sent : Sent) : Pumped Keys Payload :=
  if ¬ statusOk then ⟨client, none, true⟩
  else
    let seqNum := response.sendSequenceNumber
    let client := { client with lastSendSequenceNum := seqNum }
    if response.payload.isSome ∨ response.signedCommand.isSome then
      let client := { client with returnedWithCommand := client.returnedWithCommand + 1 }
      if seqNum = 0 then ⟨client, none, false⟩
      else
        match client.commandPayload o response with
        | .error client => ⟨client, none, false⟩
        | .ok payload => client.emit ⟨seqNum, payload⟩ sent
    else ⟨client, none, true⟩

variable {o : Outside Keys SignedData Bytes Payload} {client client' : CommandQueueClient Keys}
  {response : PumpQueueResponse SignedData Bytes} {statusOk : Bool} {sent : Sent}

/-- What a response leaves alone. -/
structure Retains (client client' : CommandQueueClient Keys) : Prop where
  target_entity : client'.targetEntity = client.targetEntity
  last_request_accepted_seq_num :
    client'.lastRequestAcceptedSeqNum = client.lastRequestAcceptedSeqNum
  last_request_rejected_seq_num :
    client'.lastRequestRejectedSeqNum = client.lastRequestRejectedSeqNum

/-- A check that fails changes a counter only. -/
theorem checked_payload_error_retains {seqNum : UInt32}
    {outerEphemeralId innerEphemeralId : String} {tbs : TBSCommand Bytes}
    (h : client.checkedPayload o seqNum outerEphemeralId innerEphemeralId tbs = .error client') :
    client.Retains client' := by
  simp only [checkedPayload] at h
  split_ifs at h
  · cases h
    exact ⟨rfl, rfl, rfl⟩
  · cases h
    exact ⟨rfl, rfl, rfl⟩
  · cases h
    exact ⟨rfl, rfl, rfl⟩
  · split at h <;> cases h
    exact ⟨rfl, rfl, rfl⟩

/-- An error in the payload keeps what the client holds. -/
theorem command_payload_error_retains
    (h : client.commandPayload o response = .error client') : client.Retains client' := by
  unfold commandPayload signedPayload plainPayload at h
  repeat' split at h
  all_goals first
    | exact checked_payload_error_retains h
    | cases h <;> exact ⟨rfl, rfl, rfl⟩

/-- So does an emission. -/
theorem emit_retains (client : CommandQueueClient Keys) (emission : Emission Payload)
    (sent : Sent) : client.Retains (client.emit emission sent).client := by
  unfold emit
  split_ifs <;> exact ⟨rfl, rfl, rfl⟩

/-- Hence every response does. -/
theorem on_pump_response_retains (o : Outside Keys SignedData Bytes Payload)
    (client : CommandQueueClient Keys) (statusOk : Bool)
    (response : PumpQueueResponse SignedData Bytes) (sent : Sent) :
    client.Retains (client.onPumpResponse o statusOk response sent).client := by
  unfold onPumpResponse
  split
  next => exact ⟨rfl, rfl, rfl⟩
  next =>
    dsimp only
    split
    next =>
      split
      next => exact ⟨rfl, rfl, rfl⟩
      next =>
        split
        next herror =>
          have h := command_payload_error_retains herror
          exact ⟨h.1, h.2, h.3⟩
        next payload _ =>
          have h := emit_retains
            { client with
              lastSendSequenceNum := response.sendSequenceNumber
              returnedWithCommand := client.returnedWithCommand + 1 }
            (⟨response.sendSequenceNumber, payload⟩ : Emission Payload) sent
          exact ⟨h.1, h.2, h.3⟩
    next => exact ⟨rfl, rfl, rfl⟩

end CommandQueueClient

/-! ## The client and its poller -/

/-- A command that was emitted, with the request that fetched it, the response that brought it and
the client when it came. -/
structure Delivery (Keys SignedData Bytes Payload : Type) where
  request : PumpQueueRequest
  client : CommandQueueClient Keys
  response : PumpQueueResponse SignedData Bytes
  emission : Emission Payload

/-- A client with its poller, the request whose response is outstanding, and the commands that
were emitted, the newest first. -/
structure Pump (Keys SignedData Bytes Payload : Type) where
  client : CommandQueueClient Keys
  poller : GrpcPoller
  outstanding : Option PumpQueueRequest
  deliveries : List (Delivery Keys SignedData Bytes Payload)

/-- What happens to a client. `call` is a call of its poller by somebody else, and `configure` a
change of the tokens that the client only reads. -/
inductive Event (Keys SignedData Bytes : Type) where
  | pumpNow (acceptedSequenceNum rejectedSequenceNum : UInt32)
  | dispatch (controlTime : Int) (draw : Draw)
  | response (statusOk : Bool) (response : PumpQueueResponse SignedData Bytes) (sent : Sent)
      (draw : Draw)
  | call (c : Call)
  | configure (keys : Keys) (enabled requireSignedCommand : Bool)

namespace Pump

/-- A client before its first request. -/
def start (client : CommandQueueClient Keys) (poller : GrpcPoller) :
    Pump Keys SignedData Bytes Payload :=
  ⟨client, poller, none, []⟩

/-- The response to the outstanding request is handled. -/
def respond (o : Outside Keys SignedData Bytes Payload) (s : Pump Keys SignedData Bytes Payload)
    (request : PumpQueueRequest) (statusOk : Bool) (response : PumpQueueResponse SignedData Bytes)
    (sent : Sent) (draw : Draw) : Pump Keys SignedData Bytes Payload :=
  let pumped := s.client.onPumpResponse o statusOk response sent
  { client := pumped.client
    poller := s.poller.onResponse statusOk [] draw
    outstanding := none
    deliveries :=
      (pumped.emission.map (⟨request, s.client, response, ·⟩)).toList ++ s.deliveries }

/-- `CommandQueueClient::dispatch`, and what the poller calls back. -/
def step (o : Outside Keys SignedData Bytes Payload) (s : Pump Keys SignedData Bytes Payload) :
    Event Keys SignedData Bytes → Pump Keys SignedData Bytes Payload
  | .pumpNow acceptedSequenceNum rejectedSequenceNum =>
      { s with
        client := s.client.pumpNow acceptedSequenceNum rejectedSequenceNum
        poller := s.poller.forceRetry }
  | .dispatch controlTime draw =>
      if ¬ s.client.enabled then s
      else
        let d := s.poller.dispatch controlTime draw
        if d.polled then
          let (client, request) := s.client.buildRequest
          { s with client, poller := d.poller, outstanding := some request }
        else { s with poller := d.poller }
  | .response statusOk response sent draw =>
      match s.outstanding with
      | none => s
      | some request => s.respond o request statusOk response sent draw
  | .call c => { s with poller := s.poller.call c }
  | .configure keys enabled requireSignedCommand =>
      { s with client := { s.client with keys, enabled, requireSignedCommand } }

variable {o : Outside Keys SignedData Bytes Payload} {s : Pump Keys SignedData Bytes Payload}
  {e : Event Keys SignedData Bytes} {d : Delivery Keys SignedData Bytes Payload}

/-- A delivery that a step adds answers the outstanding request. -/
theorem mem_deliveries_step (h : d ∈ (s.step o e).deliveries) :
    d ∈ s.deliveries ∨
      s.outstanding = some d.request ∧ s.client = d.client ∧
        ∃ statusOk sent,
          (d.client.onPumpResponse o statusOk d.response sent).emission = some d.emission := by
  cases e with
  | pumpNow | call | configure => exact .inl h
  | dispatch controlTime draw =>
      simp only [step] at h
      split_ifs at h
      all_goals exact .inl h
  | response statusOk response sent draw =>
      simp only [step] at h
      split at h
      next => exact .inl h
      next request houtstanding =>
        rw [respond, List.mem_append, Option.mem_toList, Option.map_eq_some_iff] at h
        rcases h with ⟨emission, hemission, rfl⟩ | h
        · exact .inr ⟨houtstanding, rfl, statusOk, sent, hemission⟩
        · exact .inl h

/-- A step keeps the name of the vehicle. -/
theorem step_target_entity (o : Outside Keys SignedData Bytes Payload)
    (s : Pump Keys SignedData Bytes Payload) (e : Event Keys SignedData Bytes) :
    (s.step o e).client.targetEntity = s.client.targetEntity := by
  cases e with
  | pumpNow | call | configure => rfl
  | dispatch controlTime draw =>
      simp only [step]
      split_ifs <;> rfl
  | response statusOk response sent draw =>
      simp only [step]
      split
      next => rfl
      next => exact (s.client.on_pump_response_retains o statusOk response sent).target_entity

end Pump

end Codon.Command
