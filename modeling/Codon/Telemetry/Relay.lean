import Mathlib.Data.List.Basic
import Codon.Library.Loop
import Mathlib.Algebra.GroupWithZero.Nat
import Mathlib.Algebra.Group.Int.Defs

/-!
# The telemetry relay

`TelemetryRelayRuntime` owns a flow for each entry of its configuration. `create_flows` makes the
flows and connects them to the services they send to, either with a connection for each flow and
destination or with one connection for each service, for which the sizes and the flows are tallied
first. Writers then claim the flows, and `finalize` checks that every flow has been claimed.

What the relay asks of the code outside (the slate, the service directory, the channels and the
flow objects) is answered by `Outside`. Connections and the calls that open them are numbered in
the order in which they happen; what the flow objects are told is kept in `connections`.
-/

namespace Codon.Telemetry

open Std

/-- Arithmetic in `size_t`. -/
def u64 (n : Nat) : Nat := n % 2 ^ 64

/-- The constants: `TelemetryFlowInfo::num_alt_destinations`, `bwp_datagram_packet_len` and the
number of `telem_group_slate`. -/
structure Constants where
  numAltDestinations : Nat
  packetLen : Nat
  slateGroup : Nat

/-- Every flow has the default destination 0. -/
instance (priority := 1100) (c : Constants) : NeZero (c.numAltDestinations + 1) :=
  ⟨Nat.succ_ne_zero _⟩

variable {c : Constants}

/-- `TelemetryFlowInfo`. Destination 0 of `hosts` is the default one. -/
structure TelemetryFlowInfo (c : Constants) where
  id : Nat
  group : Nat
  name : String
  hosts : Fin (c.numAltDestinations + 1) → List String
  disabledHosts : List String
  bandwidthBurst : Nat
  bandwidthRecharge : Nat

/-- `Service`. -/
structure Service where
  hostName : String
  port : Nat
  udp : Bool

/-- Where a flow sends to: an alternate destination, or the one for disabled flows. -/
inductive Destination (c : Constants) where
  | alt (i : Fin (c.numAltDestinations + 1))
  | disabled
  deriving DecidableEq

/-- The writer of a connection: one that a service is redirected to, or one that was created. -/
inductive Writer where
  | redirected (handle : Nat)
  | created (serial : Nat)
  deriving DecidableEq

/-- A flow is told to send to a service through a writer. -/
structure Connection (c : Constants) where
  flow : Nat
  destination : Destination c
  service : String
  writer : Writer

/-- A call of `get_connection`. -/
structure Request where
  service : String
  bufferSize : Nat
  deriving DecidableEq

/-- `std::pair` compares by its first component and then by its second. -/
def pairCompare (c : Constants) (p q : Nat × Fin (c.numAltDestinations + 1)) : Ordering :=
  compareLex (compareOn Prod.fst) (compareOn Prod.snd) p q

instance : TransCmp (pairCompare c) :=
  inferInstanceAs (TransCmp (compareLex (compareOn Prod.fst) (compareOn Prod.snd)))

instance : LawfulEqCmp (pairCompare c) where
  eq_of_compare {p q} h := by
    rw [pairCompare, compareLex_eq_eq] at h
    exact Prod.ext (LawfulEqCmp.eq_of_compare h.1) (LawfulEqCmp.eq_of_compare h.2)

/-- The members of `TelemetryRelayRuntime`, and what has been asked for and told so far. -/
structure Relay (c : Constants) where
  isInitialized : Bool
  isFinalized : Bool
  ids : TreeMap Nat (List Nat)
  slateGroupFlowIndices : TreeMap Nat Nat
  claimedIds : TreeSet Nat
  idToConfigInfo : TreeMap Nat (TelemetryFlowInfo c)
  flows : TreeSet Nat
  serviceRedirects : TreeMap String Nat
  masterOverrideService : Service
  bufferSizeByDestination : TreeMap String Nat
  flowsAndAltDestByDestination :
    TreeMap String (TreeSet (Nat × Fin (c.numAltDestinations + 1)) (pairCompare c))
  flowsByDisabledDestination : TreeMap String (TreeSet Nat)
  requests : List Request
  connections : List (Connection c)
  created : Nat

/-- What the code outside answers about one flow. -/
structure FlowAnswers where
  enabledBound : Bool
  destinationBound : Bool
  sourceFound : Bool
  metricsInitialized : Bool
  bandwidthSet : Bool
  idleTimeoutSet : Bool

/-- The code outside: the slate and the flow objects, the service directory, whether the connection
with a number can be created, and whether a flow takes the connection with a number. -/
structure Outside (c : Constants) where
  alwaysEnabledBound : Bool
  defaultDestinationBound : Bool
  answers : TelemetryFlowInfo c → FlowAnswers
  lookup : String → Option Service
  creates : Nat → Bool
  takes : Nat → Bool

/-! ## Creating the flows -/

namespace TelemetryFlowInfo

variable (flow : TelemetryFlowInfo c)

def isGated : Bool := !flow.disabledHosts.isEmpty

/-- The checks of a gated flow. -/
def gateValid (answers : FlowAnswers) : Bool :=
  !flow.isGated || (decide ((flow.hosts 0).length = flow.disabledHosts.length) &&
    flow.name != "" && answers.enabledBound)

def hasAltDest : Bool :=
  (List.finRange (c.numAltDestinations + 1)).any fun i => decide (i ≠ 0) && !(flow.hosts i).isEmpty

/-- The checks of the alternate destinations. -/
def altDestinationsValid (answers : FlowAnswers) : Bool :=
  ((List.finRange (c.numAltDestinations + 1)).all fun i =>
    decide (i = 0) || (flow.hosts i).isEmpty ||
      decide ((flow.hosts 0).length = (flow.hosts i).length) && flow.name != "") &&
  (!flow.hasAltDest || answers.destinationBound)

/-- What is checked about the bandwidth. -/
def bandwidthValid (answers : FlowAnswers) : Bool :=
  decide (flow.bandwidthBurst = 0) == decide (flow.bandwidthRecharge = 0) &&
    (decide (flow.bandwidthBurst = 0) || answers.bandwidthSet)

/-- `buffer_size`. -/
def bufferSize : Nat :=
  if flow.bandwidthBurst = 0 then u64 (10 * c.packetLen)
  else
    let numDgrams := u64 (flow.bandwidthBurst + c.packetLen - 1) / c.packetLen
    u64 (numDgrams * c.packetLen)

/-- The destinations and hosts, in the order of the loops over them. -/
def wanted : List (Destination c × String) :=
  ((List.finRange (c.numAltDestinations + 1)).flatMap fun i =>
      (flow.hosts i).map fun host => (.alt i, host)) ++
    if flow.isGated then flow.disabledHosts.map fun host => (.disabled, host) else []

end TelemetryFlowInfo

namespace Relay

variable (outside : Outside c) (r : Relay c)

/-- `create_connection`: the number of the writer. -/
def createConnection (service : Service) : Option (Writer × Relay c) :=
  if service.udp ∧ outside.creates r.created then
    some (.created r.created, { r with created := r.created + 1 })
  else none

/-- The service that a connection goes to, unless it is redirected. -/
def resolve (serviceName : String) : Option Service :=
  if r.masterOverrideService.hostName ≠ "" then some r.masterOverrideService
  else outside.lookup serviceName

/-- `get_connection`. The request is kept. -/
def getConnection (serviceName : String) (bufferSizeRequest : Nat) : Option (Writer × Relay c) :=
  let requests := r.requests ++ [⟨serviceName, bufferSizeRequest⟩]
  (r.resolve outside serviceName).bind fun service =>
    match r.serviceRedirects[serviceName]? with
    | some handle => some (.redirected handle, { r with requests := requests })
    | none => createConnection outside { r with requests := requests } service

/-- `add_connection` and `add_disabled_connection` of a flow. -/
def addConnection (flow : Nat) (destination : Destination c) (service : String) (writer : Writer) :
    Option (Relay c) :=
  if outside.takes r.connections.length then
    some { r with connections := r.connections ++ [⟨flow, destination, service, writer⟩] }
  else none

/-- One host of a flow, where connections are aggregated. -/
def tally (flow : TelemetryFlowInfo c) (want : Destination c × String) : Relay c :=
  let host := want.2
  let r := { r with
    bufferSizeByDestination := r.bufferSizeByDestination.insert host
      (u64 (r.bufferSizeByDestination.getD host 0 + flow.bufferSize)) }
  match want.1 with
  | .alt i => { r with
      flowsAndAltDestByDestination := r.flowsAndAltDestByDestination.insert host
        ((r.flowsAndAltDestByDestination.getD host ∅).insert (flow.id, i)) }
  | .disabled => { r with
      flowsByDisabledDestination := r.flowsByDisabledDestination.insert host
        ((r.flowsByDisabledDestination.getD host ∅).insert flow.id) }

/-- One host of a flow, where each flow has its own connections. -/
def connect (flow : TelemetryFlowInfo c) (want : Destination c × String) : Option (Relay c) := do
  let (writer, r) ← r.getConnection outside want.2 flow.bufferSize
  r.addConnection outside flow.id want.1 want.2 writer

/-- The flow gets its place in its group. -/
def addId (flow : TelemetryFlowInfo c) : Relay c :=
  let group := r.ids.getD flow.group [] ++ [flow.id]
  let r := { r with ids := r.ids.insert flow.group group }
  if flow.group = c.slateGroup then
    { r with slateGroupFlowIndices := r.slateGroupFlowIndices.insert flow.id (group.length - 1) }
  else r

/-- The loop of `create_flows` over the configuration, for one flow. -/
def createFlow (aggregate : Bool) (r : Relay c) (flow : TelemetryFlowInfo c) :
    Option (Relay c) := do
  let answers := outside.answers flow
  let r := r.addId flow
  guard (flow.id ∉ r.idToConfigInfo)
  let r := { r with idToConfigInfo := r.idToConfigInfo.insert flow.id flow }
  guard (flow.gateValid answers)
  guard (flow.altDestinationsValid answers)
  guard answers.sourceFound
  guard answers.metricsInitialized
  guard (flow.bandwidthValid answers)
  guard answers.idleTimeoutSet
  let r ← flow.wanted.foldlM (fun (r : Relay c) want =>
    if aggregate then some (r.tally flow want) else r.connect outside flow want) r
  some { r with flows := r.flows.insert flow.id }

/-- One flow that was tallied for a service gets the connection. -/
def connectTallied (service : String) (writer : Writer) (r : Relay c)
    (want : Nat × Destination c) : Option (Relay c) := do
  guard (want.1 ∈ r.flows)
  r.addConnection outside want.1 want.2 service writer

/-- The flows that were tallied for a service, in the order of the loops over them. -/
def tallied (service : String) : List (Nat × Destination c) :=
  ((r.flowsAndAltDestByDestination.getD service ∅).toList.map fun p => (p.1, .alt p.2)) ++
    (r.flowsByDisabledDestination.getD service ∅).toList.map fun id => (id, .disabled)

/-- The loop over the services that were tallied, for one service. -/
def connectService (r : Relay c) (service : String × Nat) : Option (Relay c) := do
  let (writer, r) ← r.getConnection outside service.1 service.2
  (r.tallied service.1).foldlM (connectTallied outside service.1 writer) r

/-- `create_flows`. -/
def createFlows (aggregate : Bool) (flowInfo : List (TelemetryFlowInfo c)) : Option (Relay c) := do
  guard outside.alwaysEnabledBound
  guard outside.defaultDestinationBound
  let r ← flowInfo.foldlM (createFlow outside aggregate) r
  if aggregate then r.bufferSizeByDestination.toList.foldlM (connectService outside) r else some r

/-- The relay before `init`, with the services that have been redirected or overridden. -/
def fresh (serviceRedirects : TreeMap String Nat) (masterOverrideService : Service) : Relay c where
  isInitialized := false
  isFinalized := false
  ids := ∅
  slateGroupFlowIndices := ∅
  claimedIds := ∅
  idToConfigInfo := ∅
  flows := ∅
  serviceRedirects := serviceRedirects
  masterOverrideService := masterOverrideService
  bufferSizeByDestination := ∅
  flowsAndAltDestByDestination := ∅
  flowsByDisabledDestination := ∅
  requests := []
  connections := []
  created := 0

/-- `init_internal`. -/
def initInternal (aggregate : Bool) (flowInfo : List (TelemetryFlowInfo c)) :
    Option (Relay c) := do
  guard (!r.isInitialized)
  let r ← r.createFlows outside aggregate flowInfo
  some { r with isInitialized := true }

end Relay

end Codon.Telemetry
