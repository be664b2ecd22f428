import Codon.Command.Signatures

/-!
# Commands that are played again

A request reports the larger of the rejected sequence number and the one whose sending failed,
but the anti-replay check remembers the rejected one only. No command is emitted again whose
number the request reported, in every run whose requests report no failed number larger than
what is remembered (`not_reported_of_remembers_reported`), and a larger one lets the command
through again (`replayed_of_send_failed`).
-/

namespace Codon.Command

open Codon.Library Codon.Grpc

/-- The greater of two words is the greater number. -/
theorem to_nat_max (a b : UInt32) : (max a b).toNat = max a.toNat b.toNat := by
  have hmax : max a b = if a ≤ b then b else a := rfl
  rw [hmax]
  split
  next h => exact (Nat.max_eq_right (UInt32.le_iff_toNat_le.1 h)).symm
  next h =>
    rw [UInt32.le_iff_toNat_le] at h
    exact (Nat.max_eq_left (Nat.le_of_not_le h)).symm

variable {Keys SignedData Bytes Payload : Type} {o : Outside Keys SignedData Bytes Payload}

/-- In signed mode, once a command has been accepted, the command of the delivery has an id larger
than the sequence numbers that were reported when it was fetched. -/
def Delivery.NotReported (o : Outside Keys SignedData Bytes Payload)
    (d : Delivery Keys SignedData Bytes Payload) : Prop :=
  d.client.requireSignedCommand = true → 0 < d.client.acceptedSequenceNumber →
    ∃ u : Unwrapped o d.client.keys d.response,
      d.emission.sequenceNum = o.stringToUint u.tbs.commandId 0 ∧
        d.request.acceptedSequenceNum < o.stringToUint u.tbs.commandId 0 ∧
        d.request.rejectedSequenceNum < o.stringToUint u.tbs.commandId 0

/-- The client remembers sequence numbers at least as large as those that the request reports. -/
structure CommandQueueClient.Remembers (client : CommandQueueClient Keys)
    (request : PumpQueueRequest) : Prop where
  accepted_sequence_num : request.acceptedSequenceNum ≤
    max client.lastRequestAcceptedSeqNum client.lastRequestRejectedSeqNum
  rejected_sequence_num : request.rejectedSequenceNum ≤
    max client.lastRequestAcceptedSeqNum client.lastRequestRejectedSeqNum

namespace Pump

variable {s : Pump Keys SignedData Bytes Payload}

/-- A request is built only when the sequence number whose sending failed is not larger than the
accepted and the rejected one. -/
def RemembersReported (s : Pump Keys SignedData Bytes Payload) :
    Event Keys SignedData Bytes → Prop
  | .dispatch controlTime draw =>
      s.client.enabled = true → (s.poller.dispatch controlTime draw).polled = true →
        s.client.sendFailedSequenceNum ≤
          max s.client.acceptedSequenceNumber s.client.rejectedSequenceNumber
  | _ => True

instance (s : Pump Keys SignedData Bytes Payload) :
    (e : Event Keys SignedData Bytes) → Decidable (s.RemembersReported e)
  | .dispatch controlTime draw =>
      inferInstanceAs (Decidable (s.client.enabled = true →
        (s.poller.dispatch controlTime draw).polled = true →
          s.client.sendFailedSequenceNum ≤
            max s.client.acceptedSequenceNumber s.client.rejectedSequenceNumber))
  | .pumpNow _ _ | .response _ _ _ _ | .call _ | .configure _ _ _ =>
      inferInstanceAs (Decidable True)

/-- The client remembers what the outstanding request reports, and no delivery was reported. -/
structure Guarded (o : Outside Keys SignedData Bytes Payload)
    (s : Pump Keys SignedData Bytes Payload) : Prop where
  remembers : ∀ request ∈ s.outstanding, s.client.Remembers request
  deliveries : ∀ d ∈ s.deliveries, d.NotReported o

/-- What the check lets through is larger than what the client remembers. -/
theorem lt_of_remembers {client : CommandQueueClient Keys} {request : PumpQueueRequest}
    {commandId : UInt32} (h : client.Remembers request)
    (hfresh : ¬ commandId ≤
      max client.lastRequestAcceptedSeqNum client.lastRequestRejectedSeqNum) :
    request.acceptedSequenceNum < commandId ∧ request.rejectedSequenceNum < commandId := by
  have haccepted := UInt32.le_iff_toNat_le.1 h.accepted_sequence_num
  have hrejected := UInt32.le_iff_toNat_le.1 h.rejected_sequence_num
  rw [UInt32.le_iff_toNat_le] at hfresh
  exact ⟨UInt32.lt_iff_toNat_lt.2 (by omega), UInt32.lt_iff_toNat_lt.2 (by omega)⟩

/-- A request reports the greater of the two numbers that were not accepted. -/
theorem build_request_rejected_sequence_num (client : CommandQueueClient Keys) :
    client.buildRequest.2.rejectedSequenceNum.toNat =
      max client.rejectedSequenceNumber.toNat client.sendFailedSequenceNum.toNat :=
  to_nat_max _ _

/-- A request whose number was not greater than those known is remembered. -/
theorem build_request_remembers {client : CommandQueueClient Keys}
    (h : client.sendFailedSequenceNum ≤
      max client.acceptedSequenceNumber client.rejectedSequenceNumber) :
    client.buildRequest.1.Remembers client.buildRequest.2 := by
  rw [UInt32.le_iff_toNat_le, to_nat_max] at h
  constructor
  · rw [UInt32.le_iff_toNat_le, to_nat_max]
    exact Nat.le_max_left _ _
  · rw [UInt32.le_iff_toNat_le, to_nat_max]
    rw [build_request_rejected_sequence_num]
    exact Nat.max_le.2 ⟨Nat.le_max_right _ _, h⟩

/-- A response to a remembered request delivers no command that was reported. -/
theorem not_reported_of_remembers {d : Delivery Keys SignedData Bytes Payload} {statusOk : Bool}
    {sent : Sent} (hremembers : d.client.Remembers d.request)
    (hemission : (d.client.onPumpResponse o statusOk d.response sent).emission =
      some d.emission) : d.NotReported o := by
  intro hsigned haccepted
  obtain ⟨-, hnum, u, hauthorizes⟩ := (emission_eq_some_iff hsigned).1 hemission
  have hid := hauthorizes.genuine.command_id
  have hfresh := hauthorizes.fresh haccepted
  rw [hid] at hfresh
  exact ⟨u, hnum.trans hid, lt_of_remembers hremembers hfresh⟩

/-- Nothing is delivered that was reported as rejected. -/
theorem deliveries_not_reported (h : s.Guarded o) (e : Event Keys SignedData Bytes) :
    ∀ d ∈ (s.step o e).deliveries, d.NotReported o := by
  intro d hd
  rcases mem_deliveries_step hd with hd | ⟨houtstanding, hclient, statusOk, sent, hemission⟩
  · exact h.deliveries d hd
  · exact not_reported_of_remembers (hclient ▸ h.remembers d.request houtstanding) hemission

/-- An event that remembers what it reports keeps the guard. -/
theorem step_guarded (h : s.Guarded o) (e : Event Keys SignedData Bytes)
    (hreported : s.RemembersReported e) : (s.step o e).Guarded o := by
  refine ⟨?_, deliveries_not_reported h e⟩
  cases e with
  | pumpNow | call | configure =>
      intro request hrequest
      have hremembers := h.remembers request hrequest
      exact ⟨hremembers.accepted_sequence_num, hremembers.rejected_sequence_num⟩
  | dispatch controlTime draw =>
      simp only [step]
      split_ifs with henabled hpolled
      · intro request hrequest
        cases hrequest
        exact build_request_remembers (hreported henabled hpolled)
      · exact h.remembers
      · exact h.remembers
  | response statusOk response sent draw =>
      simp only [step]
      split
      next hnone =>
        rw [hnone]
        intro _ hrequest
        cases hrequest
      next =>
        intro _ hrequest
        cases hrequest

/-- No command is emitted that the request which fetched it reported as done with, in every run
whose requests report only what the client remembers. -/
theorem not_reported_of_remembers_reported (o : Outside Keys SignedData Bytes Payload)
    {client : CommandQueueClient Keys} {poller : GrpcPoller}
    {events : List (Event Keys SignedData Bytes)}
    (h : Along (step o) RemembersReported (start client poller) events) :
    ∀ d ∈ (run (step o) (start client poller) events).deliveries, d.NotReported o := by
  have hstart : (start client poller : Pump Keys SignedData Bytes Payload).Guarded o :=
    ⟨fun _ hrequest => (nomatch hrequest), fun _ hd => (nomatch hd)⟩
  exact (h.invariant hstart fun _ e h hreported => step_guarded h e hreported).deliveries

/-- The request reports a failed number that is larger than the accepted and the rejected one, and
the check does not know of it. -/
theorem build_request_of_send_failed {client : CommandQueueClient Keys}
    (h : ¬ client.sendFailedSequenceNum ≤
      max client.acceptedSequenceNumber client.rejectedSequenceNumber) :
    client.sendFailedSequenceNum ≠ 0 ∧ client.buildRequest.1.Fresh client.sendFailedSequenceNum ∧
      client.buildRequest.2.rejectedSequenceNum = client.sendFailedSequenceNum := by
  rw [UInt32.le_iff_toNat_le, to_nat_max] at h
  refine ⟨?_, ?_, ?_⟩
  · intro hzero
    rw [hzero] at h
    exact h (Nat.zero_le _)
  · intro _ hle
    rw [UInt32.le_iff_toNat_le, to_nat_max] at hle
    exact h hle
  · apply UInt32.toNat_inj.1
    rw [build_request_rejected_sequence_num]
    omega

/-- A number whose sending failed and that is larger than what the client remembers is let through
again: the request reports it, and the command is emitted when it comes once more. -/
theorem replayed_of_send_failed {controlTime : Int} {draw draw' : Draw} {sent : Sent}
    {response : PumpQueueResponse SignedData Bytes} {u : Unwrapped o s.client.keys response}
    {payload : Payload} (henabled : s.client.enabled = true)
    (hpolled : (s.poller.dispatch controlTime draw).polled = true)
    (hsigned : s.client.requireSignedCommand = true)
    (hfailed : ¬ s.client.sendFailedSequenceNum ≤
      max s.client.acceptedSequenceNumber s.client.rejectedSequenceNumber)
    (hnum : response.sendSequenceNumber = s.client.sendFailedSequenceNum)
    (hgenuine : Genuine o s.client.targetEntity response.sendSequenceNumber u.outerEphemeralId
      u.innerEphemeralId u.tbs payload) :
    ∃ d ∈ ((s.step o (.dispatch controlTime draw)).step o
        (.response true response sent draw')).deliveries,
      d.client.acceptedSequenceNumber = s.client.acceptedSequenceNumber ∧
        d.request.rejectedSequenceNum = d.emission.sequenceNum := by
  have hstep : s.step o (.dispatch controlTime draw) =
      { s with
        client := s.client.buildRequest.1
        poller := (s.poller.dispatch controlTime draw).poller
        outstanding := some s.client.buildRequest.2 } := by
    simp only [step, henabled, hpolled, not_true_eq_false, if_false, if_true]
  obtain ⟨hne, hfresh, hreported⟩ := build_request_of_send_failed hfailed
  rw [← hnum] at hne hfresh hreported
  have hauthorizes : Authorizes o s.client.buildRequest.1 response u payload :=
    ⟨hne, hgenuine, hfresh⟩
  have hemission : (s.client.buildRequest.1.onPumpResponse o true response sent).emission =
      some ⟨response.sendSequenceNumber, payload⟩ := by
    have hmode : s.client.buildRequest.1.requireSignedCommand = true := hsigned
    exact (emission_eq_some_iff hmode).2 ⟨rfl, rfl, u, hauthorizes⟩
  refine ⟨⟨s.client.buildRequest.2, s.client.buildRequest.1, response,
    response.sendSequenceNumber, payload⟩, ?_, rfl, hreported⟩
  rw [hstep]
  simp only [step, respond, hemission]
  exact List.mem_cons_self

end Pump

/-- The first satellite rejects nothing, but command 7 fails to be sent after a command has been
accepted. -/
def failToSend : List (Event Unit Sealed String) :=
  [.pumpNow 5 0, .dispatch (100 * billion) .least,
    .response true commandSeven ⟨true, false⟩ .least]

/-- The request of the next hour reports command 7 as done with, which is emitted nevertheless when
it comes again. -/
theorem reported_command_emitted :
    ∃ p, GrpcPoller.init hourly .least = some p ∧
      ∃ d ∈ (run (Pump.step openKeystores) (.start firstSatellite p)
          (failToSend ++ [.dispatch (4000 * billion) .least,
            .response true commandSeven ⟨true, true⟩ .least])).deliveries,
        d.request.rejectedSequenceNum = 7 ∧ d.emission = ⟨7, "thrust"⟩ ∧
          ¬ d.NotReported openKeystores := by
  refine ⟨_, rfl, _, List.mem_of_mem_head? rfl, rfl, rfl, fun h => ?_⟩
  obtain ⟨u, hid, -, hrejected⟩ := h rfl (by decide)
  rw [← hid] at hrejected
  exact absurd hrejected (by decide)

/-- Command 8 is new once the failed command 7 counts as rejected. -/
theorem not_reported_after_rejection :
    ∃ p, GrpcPoller.init hourly .least = some p ∧
      ∀ d ∈ (run (Pump.step openKeystores) (.start firstSatellite p)
          (failToSend ++ [.pumpNow 5 7, .dispatch (101 * billion) .least,
            .response true { commandSeven with
              sendSequenceNumber := 8
              signedCommand := some ⟨⟨"8", "operator-4", "sat-1", "thrust"⟩, "", ""⟩ }
              ⟨true, true⟩ .least])).deliveries,
        d.NotReported openKeystores :=
  ⟨_, rfl, Pump.not_reported_of_remembers_reported openKeystores (by decide +kernel)⟩

end Codon.Command
