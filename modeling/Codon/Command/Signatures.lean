import Codon.Command.QueueClient

/-!
# Signed commands

In signed mode a command is emitted exactly if its response is signed with a command that
passes every check (`emission_eq_some_iff`). An ephemeral id is compared with the id that the
command was created with only if the keystore gave one, which is where the checks are weaker
than equality of the ids (`authorized_of_mem_deliveries`).
-/

namespace Codon.Command

open Codon.Library Codon.Grpc

variable {Keys SignedData Bytes Payload : Type} {o : Outside Keys SignedData Bytes Payload}
  {client : CommandQueueClient Keys} {response : PumpQueueResponse SignedData Bytes}
  {payload : Payload} {statusOk : Bool} {sent : Sent}

/-- A command that the signed command of the response unwraps to, through both keystores. -/
structure Unwrapped (o : Outside Keys SignedData Bytes Payload) (keys : Keys)
    (response : PumpQueueResponse SignedData Bytes) where
  signedCommand : SignedData
  singleSigned : SignedData
  outerEphemeralId : String
  tbs : TBSCommand Bytes
  innerEphemeralId : String
  has_signed_command : response.signedCommand = some signedCommand
  command_auth_unwrap :
    o.commandAuthUnwrap keys signedCommand = some (singleSigned, outerEphemeralId)
  operator_unwrap : o.operatorUnwrap keys singleSigned = some (tbs, innerEphemeralId)

/-- The unwrapped command is what it claims to be and is meant for this vehicle, and has this
payload. -/
structure Genuine (o : Outside Keys SignedData Bytes Payload) (targetEntity : String)
    (seqNum : UInt32) (outerEphemeralId innerEphemeralId : String) (tbs : TBSCommand Bytes)
    (payload : Payload) : Prop where
  command_id : seqNum = o.stringToUint tbs.commandId 0
  outer_ephemeral_id : outerEphemeralId ≠ "" → outerEphemeralId = tbs.creationInfoId
  inner_ephemeral_id : innerEphemeralId ≠ "" → innerEphemeralId = tbs.creationInfoId
  target_id : targetEntity = tbs.targetId
  from_protobuf : o.fromProtobuf tbs.commandPayload = some payload

/-- The sequence number is larger than what the client remembers, once a command was accepted. -/
def CommandQueueClient.Fresh (client : CommandQueueClient Keys) (seqNum : UInt32) : Prop :=
  0 < client.acceptedSequenceNumber →
    ¬ seqNum ≤ max client.lastRequestAcceptedSeqNum client.lastRequestRejectedSeqNum

/-- A check that fails with an error has not succeeded. -/
theorem ite_error_eq_ok_iff {E A : Type} {cond : Prop} [Decidable cond] {e : E}
    {result : Except E A} {a : A} :
    (if cond then .error e else result) = Except.ok a ↔ ¬ cond ∧ result = .ok a := by
  split <;> simp [*]

/-- The checks of a payload let through the genuine and fresh ones. -/
theorem checked_payload_eq_ok_iff {seqNum : UInt32} {outerEphemeralId innerEphemeralId : String}
    {tbs : TBSCommand Bytes} :
    client.checkedPayload o seqNum outerEphemeralId innerEphemeralId tbs = .ok payload ↔
      Genuine o client.targetEntity seqNum outerEphemeralId innerEphemeralId tbs payload ∧
        client.Fresh seqNum := by
  simp only [CommandQueueClient.checkedPayload, ite_error_eq_ok_iff, not_or, not_and, not_not,
    ne_eq]
  constructor
  · rintro ⟨⟨hid, hfresh⟩, ⟨houter, hinner⟩, htarget, hpayload⟩
    refine ⟨⟨hid, houter, hinner, htarget, ?_⟩, fun haccepted => hid ▸ hfresh haccepted⟩
    split at hpayload
    next => cases hpayload
    next payload' hparse =>
      cases hpayload
      exact hparse
  · rintro ⟨hgenuine, hfresh⟩
    refine ⟨⟨hgenuine.command_id, fun haccepted => hgenuine.command_id ▸ hfresh haccepted⟩,
      ⟨hgenuine.outer_ephemeral_id, hgenuine.inner_ephemeral_id⟩, hgenuine.target_id, ?_⟩
    rw [hgenuine.from_protobuf]

/-- A signed response has a payload when it unwraps to a genuine and fresh one. -/
theorem signed_payload_eq_ok_iff :
    client.signedPayload o response = .ok payload ↔
      client.Fresh response.sendSequenceNumber ∧
        ∃ u : Unwrapped o client.keys response,
          Genuine o client.targetEntity response.sendSequenceNumber u.outerEphemeralId
            u.innerEphemeralId u.tbs payload := by
  unfold CommandQueueClient.signedPayload
  constructor
  · intro h
    split at h
    next => cases h
    next signedCommand hsigned =>
      split at h
      next => cases h
      next singleSigned outerEphemeralId houter =>
        split at h
        next => cases h
        next tbs innerEphemeralId hinner =>
          obtain ⟨hgenuine, hfresh⟩ := checked_payload_eq_ok_iff.1 h
          exact ⟨hfresh, ⟨signedCommand, singleSigned, outerEphemeralId, tbs, innerEphemeralId,
            hsigned, houter, hinner⟩, hgenuine⟩
  · rintro ⟨hfresh, u, hgenuine⟩
    simp only [u.has_signed_command, u.command_auth_unwrap, u.operator_unwrap]
    exact checked_payload_eq_ok_iff.2 ⟨hgenuine, hfresh⟩

/-- The response brings a signed command that the client accepts, with this payload. -/
structure Authorizes (o : Outside Keys SignedData Bytes Payload) (client : CommandQueueClient Keys)
    (response : PumpQueueResponse SignedData Bytes) (u : Unwrapped o client.keys response)
    (payload : Payload) : Prop where
  sequence_number_ne_zero : response.sendSequenceNumber ≠ 0
  genuine : Genuine o client.targetEntity response.sendSequenceNumber u.outerEphemeralId
    u.innerEphemeralId u.tbs payload
  fresh : client.Fresh response.sendSequenceNumber

/-- What is emitted is the emission given. -/
theorem emit_emission (emission : Emission Payload) :
    (client.emit emission sent).emission = some emission := by
  unfold CommandQueueClient.emit
  split_ifs <;> rfl

/-- The client as it is while a command is checked. -/
def CommandQueueClient.counted (client : CommandQueueClient Keys) (seqNum : UInt32) :
    CommandQueueClient Keys :=
  { client with
    lastSendSequenceNum := seqNum
    returnedWithCommand := client.returnedWithCommand + 1 }

/-- What is emitted: the payload that the checks let pass, if the response brings a command. -/
theorem emission_eq_some_iff_command_payload {emission : Emission Payload} :
    (client.onPumpResponse o statusOk response sent).emission = some emission ↔
      statusOk = true ∧ (response.payload.isSome ∨ response.signedCommand.isSome) ∧
        response.sendSequenceNumber ≠ 0 ∧ emission.sequenceNum = response.sendSequenceNumber ∧
        (client.counted response.sendSequenceNumber).commandPayload o response =
          .ok emission.payload := by
  unfold CommandQueueClient.onPumpResponse
  split
  next hstatus => exact iff_of_false (nomatch ·) fun h => hstatus h.1
  next hstatus =>
    dsimp only
    split
    next hbrings =>
      split
      next hzero => exact iff_of_false (nomatch ·) fun h => h.2.2.1 hzero
      next hzero =>
        have hpayload : (client.counted response.sendSequenceNumber).commandPayload o response =
            { client with
              lastSendSequenceNum := response.sendSequenceNumber
              returnedWithCommand := client.returnedWithCommand + 1 }.commandPayload o response :=
          rfl
        rw [hpayload]
        split
        next herror =>
          rw [herror]
          exact iff_of_false (nomatch ·) fun h => nomatch h.2.2.2.2
        next payload hok =>
          rw [hok, emit_emission, Option.some.injEq, Except.ok.injEq]
          constructor
          · rintro rfl
            exact ⟨not_not.1 hstatus, hbrings, hzero, rfl, rfl⟩
          · rintro ⟨-, -, -, hnum, hpay⟩
            cases emission
            exact congrArg₂ Emission.mk hnum.symm hpay
    next hbrings => exact iff_of_false (nomatch ·) fun h => hbrings h.2.1

/-- In signed mode a command is emitted exactly if the response authorizes it. -/
theorem emission_eq_some_iff (hsigned : client.requireSignedCommand = true)
    {emission : Emission Payload} :
    (client.onPumpResponse o statusOk response sent).emission = some emission ↔
      statusOk = true ∧ emission.sequenceNum = response.sendSequenceNumber ∧
        ∃ u, Authorizes o client response u emission.payload := by
  rw [emission_eq_some_iff_command_payload]
  have hmode : (client.counted response.sendSequenceNumber).commandPayload o response =
      (client.counted response.sendSequenceNumber).signedPayload o response := if_pos hsigned
  rw [hmode, signed_payload_eq_ok_iff]
  constructor
  · rintro ⟨hok, -, hzero, hnum, hfresh, u, hgenuine⟩
    exact ⟨hok, hnum, u, hzero, hgenuine, hfresh⟩
  · rintro ⟨hok, hnum, u, hzero, hgenuine, hfresh⟩
    refine ⟨hok, .inr ?_, hzero, hnum, hfresh, u, hgenuine⟩
    rw [u.has_signed_command]
    rfl

namespace Pump

variable {s : Pump Keys SignedData Bytes Payload}

/-- Every delivery comes from a client of this vehicle and from the response it records. -/
structure Sound (o : Outside Keys SignedData Bytes Payload) (targetEntity : String)
    (s : Pump Keys SignedData Bytes Payload) : Prop where
  target_entity : s.client.targetEntity = targetEntity
  deliveries : ∀ d ∈ s.deliveries, d.client.targetEntity = targetEntity ∧
    ∃ statusOk sent,
      (d.client.onPumpResponse o statusOk d.response sent).emission = some d.emission

/-- Each event emits authorized payloads only. -/
theorem step_sound {targetEntity : String} (h : s.Sound o targetEntity)
    (e : Event Keys SignedData Bytes) : (s.step o e).Sound o targetEntity := by
  refine ⟨(step_target_entity o s e).trans h.target_entity, fun d hd => ?_⟩
  rcases mem_deliveries_step hd with hd | ⟨-, hclient, hemission⟩
  · exact h.deliveries d hd
  · exact ⟨hclient ▸ h.target_entity, hemission⟩

/-- Hence every emission of a run is authorized. -/
theorem run_sound (o : Outside Keys SignedData Bytes Payload) (client : CommandQueueClient Keys)
    (poller : GrpcPoller) (events : List (Event Keys SignedData Bytes)) :
    (run (step o) (start client poller) events).Sound o client.targetEntity :=
  run_invariant ⟨rfl, fun _ hd => nomatch hd⟩ fun _ e h => step_sound h e

/-- Every command that is emitted in signed mode was authorized for this vehicle, and a response
that authorizes none emits none. -/
theorem authorized_in_signed_mode (o : Outside Keys SignedData Bytes Payload)
    (client : CommandQueueClient Keys) (poller : GrpcPoller)
    (events : List (Event Keys SignedData Bytes)) :
    let s := run (step o) (start client poller) events
    (∀ d ∈ s.deliveries, d.client.requireSignedCommand = true →
      d.emission.sequenceNum = d.response.sendSequenceNumber ∧
        ∃ u, Authorizes o d.client d.response u d.emission.payload ∧
          u.tbs.targetId = client.targetEntity) ∧
    ∀ statusOk response sent draw, s.client.requireSignedCommand = true →
      (¬ ∃ u payload, Authorizes o s.client response u payload) →
        (s.step o (.response statusOk response sent draw)).deliveries = s.deliveries := by
  intro s
  have hsound : s.Sound o client.targetEntity := run_sound o client poller events
  constructor
  · intro d hd hsigned
    obtain ⟨htarget, statusOk, sent, hemission⟩ := hsound.deliveries d hd
    obtain ⟨-, hnum, u, hauthorizes⟩ := (emission_eq_some_iff hsigned).1 hemission
    exact ⟨hnum, u, hauthorizes, hauthorizes.genuine.target_id.symm.trans htarget⟩
  · intro statusOk response sent draw hsigned hnone
    simp only [step]
    split
    next => rfl
    next request _ =>
      have hemission : (s.client.onPumpResponse o statusOk response sent).emission = none := by
        rw [Option.eq_none_iff_forall_ne_some]
        intro emission hemission
        obtain ⟨-, -, u, hauthorizes⟩ := (emission_eq_some_iff hsigned).1 hemission
        exact hnone ⟨u, emission.payload, hauthorizes⟩
      rw [respond, hemission]
      rfl

end Pump

/-- A signed command that unwraps to the command and the ephemeral ids it is made of. -/
structure Sealed where
  tbs : TBSCommand String
  outerEphemeralId : String
  innerEphemeralId : String

/-- Keystores that unwrap everything, and two numbers that are parsed. -/
def openKeystores : Outside Unit Sealed String String where
  commandAuthUnwrap _ signed := some (signed, signed.outerEphemeralId)
  operatorUnwrap _ signed := some (signed.tbs, signed.innerEphemeralId)
  stringToUint text value := if text = "7" then 7 else if text = "8" then 8 else value
  fromProtobuf bytes := some bytes

/-- Command 7 for the first satellite, signed with keys that are not ephemeral. -/
def commandSeven : PumpQueueResponse Sealed String where
  sendSequenceNumber := 7
  payload := none
  signedCommand := some ⟨⟨"7", "operator-4", "sat-1", "thrust"⟩, "", ""⟩

/-- The first satellite in signed mode. -/
def firstSatellite : CommandQueueClient Unit := .init "sat-1" () true true

/-- A poller with the default configuration, but without jitter. -/
def hourly : GrpcPollerConfig where
  randomizePollingPeriod := false
  pollingPeriodJitter _ := 0

/-- A command whose unwrapping gives no ephemeral id is emitted whatever it was created with. -/
theorem emitted_without_ephemeral_id :
    ∃ p, GrpcPoller.init hourly .least = some p ∧
      ∃ d ∈ (run (Pump.step openKeystores) (.start firstSatellite p)
          [.dispatch (100 * billion) .least,
            .response true commandSeven ⟨true, true⟩ .least]).deliveries,
        d.client.requireSignedCommand = true ∧ d.emission = ⟨7, "thrust"⟩ ∧
          ∀ u : Unwrapped openKeystores d.client.keys d.response,
            u.outerEphemeralId ≠ u.tbs.creationInfoId := by
  refine ⟨_, rfl, _, List.mem_of_mem_head? rfl, rfl, rfl, fun u => ?_⟩
  obtain ⟨signedCommand, singleSigned, outerEphemeralId, tbs, innerEphemeralId, hsigned, houter,
    hinner⟩ := u
  cases hsigned
  cases houter
  cases hinner
  decide

end Codon.Command
