import Codon.Command.QueueClient

/-!
# The command sender

`CommandSender` of `CommandSender.cc`: a command is translated, framed with its sequence number
and written to the channel of the node that it is for. The translation and the framing are
outside the repository (`Framing`), and whether a channel takes a frame is an argument of `send`.
What `send` does depends only on what becomes of the command (`Fate`, `send_eq`).
-/

namespace Codon.Command

variable {Payload Message NodeId Channel Frame : Type}

/-- The code that turns a payload into a frame: `CommandPayload::write_message` with the name of the
node, `Message::prepare_transport`, and `TimestampFramedMessage::init` with the `ack` flag and the
timestamp. -/
structure Framing (Payload Message NodeId Frame : Type) where
  writeMessage : Payload → Option (Message × String)
  prepareTransport : Message → Nat → Nat → Option Message
  init : Message → Bool → Nat → NodeId → UInt32 → Option Frame

/-- `CommandSender`: the channels by node name, and its counters. -/
structure CommandSender (NodeId Channel : Type) where
  clientNodeId : NodeId
  relayChannels : List (String × Channel)
  metricsWrites : UInt32
  errorsTranslateFailed : UInt32
  errorsInvalidNode : UInt32
  errorsWriteFailed : UInt32

/-- What `send` does and returns: what it wrote, and where. -/
structure Sending (NodeId Channel Frame : Type) where
  sender : CommandSender NodeId Channel
  wrote : Option (Channel × Frame)
  sent : Sent

/-- What becomes of a command. -/
inductive Fate (Channel Frame : Type) where
  | translateFailed
  | aborted
  | invalidNode
  | writeFailed
  | written (channel : Channel) (frame : Frame)

/-- The counters of a sender. -/
inductive Counter where
  | writes
  | translateFailed
  | invalidNode
  | writeFailed
  deriving DecidableEq

namespace CommandSender

/-- The channels, unless one is null. -/
def nonNull (relayChannels : List (String × Option Channel)) : Option (List (String × Channel)) :=
  relayChannels.mapM fun entry : String × Option Channel =>
    entry.2.map fun channel => (entry.1, channel)

/-- `CommandSender::init`, where a null channel is `none`. -/
def init (nodeNameToNodeId : String → Option NodeId) (clientNode : String)
    (relayChannels : List (String × Option Channel)) : Option (CommandSender NodeId Channel) :=
  match nodeNameToNodeId clientNode with
  | none => none
  | some clientNodeId =>
      if relayChannels.isEmpty then none
      else
        (nonNull relayChannels).map fun relayChannels =>
          { clientNodeId
            relayChannels
            metricsWrites := 0
            errorsTranslateFailed := 0
            errorsInvalidNode := 0
            errorsWriteFailed := 0 }

variable (framing : Framing Payload Message NodeId Frame) (sender : CommandSender NodeId Channel)

/-- `CommandSender::send`. -/
def send (sequenceNumber : UInt32) (payload : Payload) (writeOk : Bool) :
    Sending NodeId Channel Frame :=
  match framing.writeMessage payload with
  | none =>
      let sender := { sender with errorsTranslateFailed := sender.errorsTranslateFailed + 1 }
      ⟨sender, none, ⟨true, false⟩⟩
  | some (vehicleMsg, node) =>
      match framing.prepareTransport vehicleMsg 0 0 with
      | none => ⟨sender, none, ⟨false, false⟩⟩
      | some vehicleMsg =>
          -- asks for a receipt; the timestamp is not used
          match framing.init vehicleMsg true 0 sender.clientNodeId sequenceNumber with
          | none => ⟨sender, none, ⟨false, false⟩⟩
          | some tsMsg =>
              match sender.relayChannels.lookup node with
              | none =>
                  let sender := { sender with errorsInvalidNode := sender.errorsInvalidNode + 1 }
                  ⟨sender, none, ⟨true, false⟩⟩
              | some channel =>
                  if ¬ writeOk then
                    let sender :=
                      { sender with errorsWriteFailed := sender.errorsWriteFailed + 1 }
                    ⟨sender, none, ⟨true, false⟩⟩
                  else
                    let sender := { sender with metricsWrites := sender.metricsWrites + 1 }
                    ⟨sender, some (channel, tsMsg), ⟨true, true⟩⟩

/-! ## What becomes of a command -/

/-- The frame of a command and the name of the node that it is for. -/
def frameOf (sequenceNumber : UInt32) (vehicleMsg : Message) : Option Frame :=
  (framing.prepareTransport vehicleMsg 0 0).bind
    (framing.init · true 0 sender.clientNodeId sequenceNumber)

def fate (emission : Emission Payload) (writeOk : Bool) : Fate Channel Frame :=
  match framing.writeMessage emission.payload with
  | none => .translateFailed
  | some (vehicleMsg, node) =>
      match sender.frameOf framing emission.sequenceNum vehicleMsg with
      | none => .aborted
      | some frame =>
          match sender.relayChannels.lookup node with
          | none => .invalidNode
          | some channel => if writeOk then .written channel frame else .writeFailed

end CommandSender

namespace Fate

/-- The counter that counts commands of this fate. -/
def counter : Fate Channel Frame → Option Counter
  | translateFailed => some .translateFailed
  | aborted => none
  | invalidNode => some .invalidNode
  | writeFailed => some .writeFailed
  | written _ _ => some .writes

/-- What is written to a channel. -/
def wrote : Fate Channel Frame → Option (Channel × Frame)
  | written channel frame => some (channel, frame)
  | _ => none

/-- What the sender tells the client. -/
def sent : Fate Channel Frame → Sent
  | aborted => ⟨false, false⟩
  | written _ _ => ⟨true, true⟩
  | _ => ⟨true, false⟩

end Fate

namespace CommandSender

/-- What a counter shows. -/
def counter (sender : CommandSender NodeId Channel) : Counter → UInt32
  | .writes => sender.metricsWrites
  | .translateFailed => sender.errorsTranslateFailed
  | .invalidNode => sender.errorsInvalidNode
  | .writeFailed => sender.errorsWriteFailed

/-- The sender once a command of this fate is counted. -/
def tick (sender : CommandSender NodeId Channel) :
    Fate Channel Frame → CommandSender NodeId Channel
  | .translateFailed => { sender with errorsTranslateFailed := sender.errorsTranslateFailed + 1 }
  | .aborted => sender
  | .invalidNode => { sender with errorsInvalidNode := sender.errorsInvalidNode + 1 }
  | .writeFailed => { sender with errorsWriteFailed := sender.errorsWriteFailed + 1 }
  | .written _ _ => { sender with metricsWrites := sender.metricsWrites + 1 }

variable {framing : Framing Payload Message NodeId Frame} {sender : CommandSender NodeId Channel}
  {emission : Emission Payload} {writeOk : Bool}

@[simp] theorem tick_client_node_id (fate : Fate Channel Frame) :
    (sender.tick fate).clientNodeId = sender.clientNodeId := by
  cases fate <;> rfl

@[simp] theorem tick_relay_channels (fate : Fate Channel Frame) :
    (sender.tick fate).relayChannels = sender.relayChannels := by
  cases fate <;> rfl

/-- A tick adds one to the counter of the frame's fate, and to no other. -/
theorem counter_tick (fate : Fate Channel Frame) (c : Counter) :
    (sender.tick fate).counter c =
      sender.counter c + if fate.counter = some c then 1 else 0 := by
  cases fate <;> cases c <;> simp [tick, counter, Fate.counter]

/-- What `send` does is settled by the fate of the command. -/
theorem send_eq :
    sender.send framing emission.sequenceNum emission.payload writeOk =
      ⟨sender.tick (sender.fate framing emission writeOk),
        (sender.fate framing emission writeOk).wrote,
        (sender.fate framing emission writeOk).sent⟩ := by
  simp only [send, fate, frameOf]
  cases framing.writeMessage emission.payload with
  | none => rfl
  | some message =>
      obtain ⟨vehicleMsg, node⟩ := message
      dsimp only
      cases framing.prepareTransport vehicleMsg 0 0 with
      | none => rfl
      | some prepared =>
          dsimp only [Option.bind_some]
          cases framing.init prepared true 0 sender.clientNodeId emission.sequenceNum with
          | none => rfl
          | some frame =>
              dsimp only
              cases sender.relayChannels.lookup node with
              | none => rfl
              | some channel => cases writeOk <;> rfl

/-- Senders of one node with the same channels give a command the same fate. -/
theorem fate_tick (other : Fate Channel Frame) :
    (sender.tick other).fate framing emission writeOk =
      sender.fate framing emission writeOk := by
  simp only [fate, frameOf, tick_client_node_id, tick_relay_channels]

end CommandSender

end Codon.Command
