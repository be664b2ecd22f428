import Codon.Slate.Layout
import Codon.Telemetry.ParserKinds

/-!
# The control elements of the telemetry relay

`TelemetryRelayControl` creates the elements of the control slate by which a flow is enabled and
its destination is chosen, and `create_flows` of the relay binds to them. Both read the same
configuration: where both succeed, every element that a flow is bound to has been created for
it, and the validator that it was created with still exists (`control_serves_runtime`).

The slate may refuse any element. It is only assumed to bind what has been created in it.
-/

namespace Codon.Telemetry

open Codon.Library Std

variable {c : Constants}

/-- `TelemetryAltDestinationValidator`. -/
structure TelemetryAltDestinationValidator (c : Constants) where
  destValidity : Fin (c.numAltDestinations + 1) → Bool

/-- `validate`: whether the new value is accepted, and the value after it. -/
def TelemetryAltDestinationValidator.validate (validator : TelemetryAltDestinationValidator c)
    (newValue value : Nat) : Bool × Nat :=
  if h : newValue < c.numAltDestinations + 1 then
    if validator.destValidity ⟨newValue, h⟩ then (true, newValue) else (false, value)
  else (false, value)

inductive ControlType where
  | bool
  | uint8
deriving DecidableEq

/-- An element of the control slate: the sub-slates that it is in, and what it is created with. The
validator is that of a number. -/
structure ControlElement where
  subSlates : List String
  name : String
  type : ControlType
  initialValue : Nat
  shard : Slate.Shard
  access : Slate.ElemAccess
  validator : Option Nat
deriving DecidableEq

/-- `TelemetryRelayControl`, with the elements that it has created and all validators that it has
made. A validator exists as long as `dest_validators` has its number. -/
structure TelemetryRelayControl (c : Constants) where
  destValidators : TreeMap Nat Nat
  validators : List (TelemetryAltDestinationValidator c)
  created : List ControlElement

/-- The validator for the destination of a flow. -/
def TelemetryFlowInfo.destinationValidator (flow : TelemetryFlowInfo c) :
    TelemetryAltDestinationValidator c :=
  ⟨fun i => i = 0 ∨ flow.hosts i ≠ []⟩

/-- The element by which a gated flow is enabled. -/
def enabledElement (relay flowName : String) (shard : Slate.Shard) : ControlElement :=
  ⟨[relay, flowName], "enabled", .bool, 0, shard, .slateReadWrite, none⟩

/-- The element by which the destination of a flow is chosen. -/
def destinationElement (relay flowName : String) (shard : Slate.Shard) (validator : Nat) :
    ControlElement :=
  ⟨[relay, flowName], "destination", .uint8, 0, shard, .slateReadWrite, some validator⟩

/-- The constant elements for flows that are not gated, or have no alternate destinations. -/
def alwaysEnabledElement (relay : String) : ControlElement :=
  ⟨[relay], "always_enabled", .bool, 1, .static, .slateReadOnly, none⟩

def defaultDestinationElement (relay : String) : ControlElement :=
  ⟨[relay], "default_destination", .uint8, 0, .static, .slateReadOnly, none⟩

namespace TelemetryRelayControl

/-- A control that has just been constructed. -/
def fresh (c : Constants) : TelemetryRelayControl c := ⟨∅, [], []⟩

variable (creates : List ControlElement → ControlElement → Bool) (r : TelemetryRelayControl c)

/-- `create` in the slate, which may depend on what has been created. -/
def create (element : ControlElement) : Option (TelemetryRelayControl c) :=
  if creates r.created element then some { r with created := r.created ++ [element] } else none

/-- The element of a gated flow. -/
def createEnabled (relay : String) (shard : Slate.Shard) (flow : TelemetryFlowInfo c) :
    Option (TelemetryRelayControl c) :=
  if flow.isGated then r.create creates (enabledElement relay flow.name shard) else some r

/-- The element of a flow with alternate destinations, and its validator. That of an earlier flow
with the same number is released. -/
def createDestination (relay : String) (shard : Slate.Shard) (flow : TelemetryFlowInfo c) :
    Option (TelemetryRelayControl c) :=
  if flow.hasAltDest then
    { r with
      destValidators := r.destValidators.insert flow.id r.validators.length
      validators := r.validators ++ [flow.destinationValidator] }.create creates
        (destinationElement relay flow.name shard r.validators.length)
  else some r

/-- The loop of `init_internal`, for one flow. The names of the flows so far are kept besides. -/
def initFlow (relay : String) (shard : Slate.Shard)
    (s : TelemetryRelayControl c × TreeMap String Nat) (flow : TelemetryFlowInfo c) :
    Option (TelemetryRelayControl c × TreeMap String Nat) := do
  guard (flow.name = "" ∨ flow.name ∉ s.2)
  let r ← s.1.createEnabled creates relay shard flow
  let r ← r.createDestination creates relay shard flow
  some (r, s.2.insert flow.name flow.id)

/-- `init_internal`. -/
def initInternal (relay : String) (flowInfo : List (TelemetryFlowInfo c)) (useSyncShard : Bool) :
    Option (TelemetryRelayControl c) := do
  let (r, _) ← flowInfo.foldlM
    (initFlow creates relay (if useSyncShard then .sync else .nonsync)) (r, ∅)
  let r ← r.create creates (alwaysEnabledElement relay)
  r.create creates (defaultDestinationElement relay)

/-- `init`. -/
def init (o : ParserOutside c) (relay : String) (lines : List Line) (useSyncShard : Bool) :
    Option (TelemetryRelayControl c) := do
  let infos ← o.parseFile .control [] lines
  r.initInternal creates relay (infos.map FlowInfo.toTelemetryFlowInfo) useSyncShard

variable {creates : List ControlElement → ControlElement → Bool}
  {r r' : TelemetryRelayControl c} {relay : String} {shard : Slate.Shard}
  {flow : TelemetryFlowInfo c}

/-- A creation that succeeds adds its element and nothing else. -/
theorem create_eq_some {element : ControlElement} (h : r.create creates element = some r') :
    r' = { r with created := r.created ++ [element] } := by
  unfold create at h
  split_ifs at h
  exact (Option.some.inj h).symm

/-! ## What has been created -/

/-- Nothing that has been created or made is lost. -/
structure Extends (r r' : TelemetryRelayControl c) : Prop where
  created : ∀ element ∈ r.created, element ∈ r'.created
  validators : ∀ {number : Nat} {validator}, r.validators[number]? = some validator →
    r'.validators[number]? = some validator

/-- Growth of the control elements composes. -/
theorem Extends.trans {r'' : TelemetryRelayControl c} (h : r.Extends r') (h' : r'.Extends r'') :
    r.Extends r'' where
  created element hmem := h'.created element (h.created element hmem)
  validators hnumber := h'.validators (h.validators hnumber)

/-- A creation only adds its element. -/
theorem create_extends {element : ControlElement} (h : r.create creates element = some r') :
    r.Extends r' ∧ element ∈ r'.created ∧ r'.destValidators = r.destValidators := by
  rw [create_eq_some h]
  refine ⟨⟨fun other hmem => List.mem_append_left _ hmem, fun hnumber => hnumber⟩, ?_, rfl⟩
  exact List.mem_append_right _ List.mem_cons_self

/-- A gated flow gets the element that enables it. -/
theorem create_enabled_spec (h : r.createEnabled creates relay shard flow = some r') :
    r.Extends r' ∧ r'.destValidators = r.destValidators ∧
      (flow.isGated = true → enabledElement relay flow.name shard ∈ r'.created) := by
  unfold createEnabled at h
  split_ifs at h with hgated
  · obtain ⟨hextends, hmem, hsame⟩ := create_extends h
    exact ⟨hextends, hsame, fun _ => hmem⟩
  · cases h
    exact ⟨⟨fun _ hmem => hmem, fun hnumber => hnumber⟩, rfl, fun h => absurd h hgated⟩

/-- The destination of a flow can be chosen by an element whose validator is that of the flow and
exists. -/
structure Chooses (relay : String) (shard : Slate.Shard) (r : TelemetryRelayControl c)
    (flow : TelemetryFlowInfo c) (number : Nat) : Prop where
  created : destinationElement relay flow.name shard number ∈ r.created
  made : r.validators[number]? = some flow.destinationValidator
  owned : r.destValidators[flow.id]? = some number

/-- A flow with an alternative destination gets the element that chooses it. -/
theorem create_destination_spec (h : r.createDestination creates relay shard flow = some r') :
    r.Extends r' ∧
      (∀ id, id ≠ flow.id → r'.destValidators[id]? = r.destValidators[id]?) ∧
      (flow.hasAltDest = true → ∃ number, Chooses relay shard r' flow number) := by
  unfold createDestination at h
  split_ifs at h with halt
  · rw [create_eq_some h]
    refine ⟨⟨fun other hmem => List.mem_append_left _ hmem, fun hnumber => ?_⟩, fun id hne => ?_,
      fun _ => ⟨r.validators.length, ?_, ?_, ?_⟩⟩
    · obtain ⟨hlt, -⟩ := List.getElem?_eq_some_iff.1 hnumber
      rw [List.getElem?_append_left hlt]
      exact hnumber
    · rw [TreeMap.getElem?_insert, if_neg (by simpa using fun heq => hne heq.symm)]
    · exact List.mem_append_right _ List.mem_cons_self
    · simp
    · simp
  · cases h
    exact ⟨⟨fun _ hmem => hmem, fun hnumber => hnumber⟩, fun _ _ => rfl, fun h => absurd h halt⟩

/-- A choice survives the elements created later. -/
theorem Chooses.extend {number : Nat} (h : Chooses relay shard r flow number)
    (hextends : r.Extends r') (hsame : r'.destValidators[flow.id]? = r.destValidators[flow.id]?) :
    Chooses relay shard r' flow number where
  created := hextends.created _ h.created
  made := hextends.validators h.made
  owned := hsame.trans h.owned

/-- What the loop has done for the flows so far. Of two flows with the same number the earlier one
may have lost its validator. -/
structure Controls (relay : String) (shard : Slate.Shard) (earlier : List (TelemetryFlowInfo c))
    (r : TelemetryRelayControl c) : Prop where
  enabled : ∀ flow ∈ earlier, flow.isGated = true →
    enabledElement relay flow.name shard ∈ r.created
  destination : ∀ flow ∈ earlier, flow.hasAltDest = true → ∃ number,
    destinationElement relay flow.name shard number ∈ r.created
  chooses : (earlier.map TelemetryFlowInfo.id).Nodup → ∀ flow ∈ earlier, flow.hasAltDest = true →
    ∃ number, Chooses relay shard r flow number

/-- One flow more is controlled after its own initialisation. -/
theorem Controls.step {earlier : List (TelemetryFlowInfo c)}
    {s s' : TelemetryRelayControl c × TreeMap String Nat} (hs : Controls relay shard earlier s.1)
    (h : initFlow creates relay shard s flow = some s') :
    Controls relay shard (earlier ++ [flow]) s'.1 := by
  obtain ⟨-, -, h⟩ := Option.bind_eq_some_iff.1 h
  obtain ⟨r₁, henabled, h⟩ := Option.bind_eq_some_iff.1 h
  obtain ⟨r₂, hdestination, h⟩ := Option.bind_eq_some_iff.1 h
  cases h
  obtain ⟨hextends₁, hsame, hgated⟩ := create_enabled_spec henabled
  obtain ⟨hextends₂, hkept, halt⟩ := create_destination_spec hdestination
  have hextends := hextends₁.trans hextends₂
  have hcases (other : TelemetryFlowInfo c) (hmem : other ∈ earlier ++ [flow]) :
      other ∈ earlier ∨ other = flow := by
    rwa [List.mem_append, List.mem_singleton] at hmem
  refine ⟨fun other hmem hother => ?_, fun other hmem hother => ?_,
    fun hnodup other hmem hhas => ?_⟩
  · rcases hcases other hmem with hold | rfl
    · exact hextends.created _ (hs.enabled other hold hother)
    · exact hextends₂.created _ (hgated hother)
  · rcases hcases other hmem with hold | rfl
    · obtain ⟨number, hcreated⟩ := hs.destination other hold hother
      exact ⟨number, hextends.created _ hcreated⟩
    · obtain ⟨number, hchooses⟩ := halt hother
      exact ⟨number, hchooses.created⟩
  · rw [List.map_append, List.map_singleton, List.nodup_append] at hnodup
    rcases hcases other hmem with hold | rfl
    · obtain ⟨number, hchooses⟩ := hs.chooses hnodup.1 other hold hhas
      refine ⟨number, hchooses.extend hextends ?_⟩
      -- the number of the flow is another one, so that its validator is kept
      have hne : other.id ≠ flow.id :=
        hnodup.2.2 _ (List.mem_map_of_mem hold) _ (List.mem_singleton.2 rfl)
      rw [hkept _ hne, hsame]
    · exact halt hhas

/-- An initialisation that succeeds controls every flow of the file. -/
theorem init_eq_some {o : ParserOutside c} {lines : List Line} {useSyncShard : Bool}
    (h : (fresh c).init creates o relay lines useSyncShard = some r) :
    ∃ infos, o.parseFile .control [] lines = some infos ∧
      Controls relay (if useSyncShard then .sync else .nonsync)
        (infos.map FlowInfo.toTelemetryFlowInfo) r ∧
      alwaysEnabledElement relay ∈ r.created ∧ defaultDestinationElement relay ∈ r.created := by
  obtain ⟨infos, hparse, h⟩ := Option.bind_eq_some_iff.1 h
  obtain ⟨⟨r₁, names⟩, hloop, h⟩ := Option.bind_eq_some_iff.1 h
  obtain ⟨r₂, halways, hdefault⟩ := Option.bind_eq_some_iff.1 h
  have hcontrols := foldlM_prefix (P := fun earlier s => Controls relay _ earlier s.1) hloop
    ⟨fun _ hmem => (List.not_mem_nil hmem).elim, fun _ hmem => (List.not_mem_nil hmem).elim,
      fun _ _ hmem => (List.not_mem_nil hmem).elim⟩ fun _ _ _ _ hs hstep => hs.step hstep
  obtain ⟨hextends₁, hmem₁, hsame₁⟩ := create_extends halways
  obtain ⟨hextends₂, hmem₂, hsame₂⟩ := create_extends hdefault
  have hextends := hextends₁.trans hextends₂
  refine ⟨infos, hparse, ⟨fun flow hmem hgated => ?_, fun flow hmem hhas => ?_,
    fun hnodup flow hmem hhas => ?_⟩, hextends₂.created _ hmem₁, hmem₂⟩
  · exact hextends.created _ (hcontrols.enabled flow hmem hgated)
  · obtain ⟨number, hcreated⟩ := hcontrols.destination flow hmem hhas
    exact ⟨number, hextends.created _ hcreated⟩
  · obtain ⟨number, hchooses⟩ := hcontrols.chooses hnodup flow hmem hhas
    exact ⟨number, hchooses.extend hextends (by rw [hsame₂, hsame₁])⟩

end TelemetryRelayControl

/-! ## What the relay binds to -/

/-- An element of a type has been created. -/
def Found (created : List ControlElement) (subSlates : List String) (name : String)
    (type : ControlType) : Prop :=
  ∃ element ∈ created, element.subSlates = subSlates ∧ element.name = name ∧ element.type = type

instance (created : List ControlElement) (subSlates : List String) (name : String)
    (type : ControlType) : Decidable (Found created subSlates name type) :=
  inferInstanceAs (Decidable (∃ element ∈ created, _ ∧ _ ∧ _))

/-- The slate binds the tokens of `create_flows` to elements that have been created. -/
structure Binds (relay : String) (created : List ControlElement) (outside : Outside c) : Prop where
  alwaysEnabled : Found created [relay] "always_enabled" .bool →
    outside.alwaysEnabledBound = true
  defaultDestination : Found created [relay] "default_destination" .uint8 →
    outside.defaultDestinationBound = true
  enabled : ∀ flow : TelemetryFlowInfo c, Found created [relay, flow.name] "enabled" .bool →
    (outside.answers flow).enabledBound = true
  destination : ∀ flow : TelemetryFlowInfo c,
    Found created [relay, flow.name] "destination" .uint8 →
      (outside.answers flow).destinationBound = true

/-- The same code outside, except that the slate binds everything. -/
def Outside.bound (outside : Outside c) : Outside c :=
  { outside with
    alwaysEnabledBound := true
    defaultDestinationBound := true
    answers := fun flow =>
      { outside.answers flow with enabledBound := true, destinationBound := true } }

section

variable {outside : Outside c} {flow : TelemetryFlowInfo c} {aggregate : Bool}

/-- A flow whose elements are bound is created as if everything were bound. -/
theorem create_flow_bound
    (hgated : flow.isGated = true → (outside.answers flow).enabledBound = true)
    (halt : flow.hasAltDest = true → (outside.answers flow).destinationBound = true)
    (r : Relay c) :
    Relay.createFlow outside aggregate r flow =
      Relay.createFlow outside.bound aggregate r flow := by
  have hgate : flow.gateValid (outside.answers flow) =
      flow.gateValid (outside.bound.answers flow) := by
    unfold TelemetryFlowInfo.gateValid Outside.bound
    cases hflow : flow.isGated with
    | false => rfl
    | true => rw [hgated hflow]
  have hdestinations : flow.altDestinationsValid (outside.answers flow) =
      flow.altDestinationsValid (outside.bound.answers flow) := by
    unfold TelemetryFlowInfo.altDestinationsValid Outside.bound
    cases hflow : flow.hasAltDest with
    | false => rfl
    | true => rw [halt hflow]
  unfold Relay.createFlow
  dsimp only
  rw [hgate, hdestinations]
  rfl

/-- So are the flows of a configuration. -/
theorem create_flows_bound {flowInfo : List (TelemetryFlowInfo c)}
    (halways : outside.alwaysEnabledBound = true)
    (hdefault : outside.defaultDestinationBound = true)
    (hgated : ∀ flow ∈ flowInfo, flow.isGated = true →
      (outside.answers flow).enabledBound = true)
    (halt : ∀ flow ∈ flowInfo, flow.hasAltDest = true →
      (outside.answers flow).destinationBound = true) (r : Relay c) :
    r.createFlows outside aggregate flowInfo = r.createFlows outside.bound aggregate flowInfo := by
  have hloop : flowInfo.foldlM (Relay.createFlow outside aggregate) r =
      flowInfo.foldlM (Relay.createFlow outside.bound aggregate) r :=
    foldlM_congr fun r flow hmem => create_flow_bound (hgated flow hmem) (halt flow hmem) r
  unfold Relay.createFlows
  rw [halways, hdefault, hloop]
  rfl

end

/-- The flows that the control code reads are those of the node. -/
theorem init_controls {creates : List ControlElement → ControlElement → Bool}
    {o : ParserOutside c} {relay : String} {lines : List Line} {useSyncShard : Bool}
    {control : TelemetryRelayControl c} {kind : ParserKind} {muxedGroups : List Nat}
    {infos : List (FlowInfo c)}
    (hcontrol : (TelemetryRelayControl.fresh c).init creates o relay lines useSyncShard =
      some control)
    (hparse : o.parseFile kind muxedGroups lines = some infos) :
    control.Controls relay (if useSyncShard then .sync else .nonsync)
        (infos.map FlowInfo.toTelemetryFlowInfo) ∧
      alwaysEnabledElement relay ∈ control.created ∧
      defaultDestinationElement relay ∈ control.created := by
  obtain ⟨infos', hparse', hcontrols, hdefaults⟩ := TelemetryRelayControl.init_eq_some hcontrol
  obtain ⟨infos'', hparse'', hsame⟩ := ParserOutside.parse_file_agrees hparse []
  rw [hparse'] at hparse''
  cases hparse''
  have hflows : infos'.map FlowInfo.toTelemetryFlowInfo =
      infos.map FlowInfo.toTelemetryFlowInfo := by
    have hmapped := congrArg (List.map FlowInfo.toTelemetryFlowInfo) hsame
    rw [List.map_map, List.map_map] at hmapped
    exact hmapped
  rw [← hflows]
  exact ⟨hcontrols, hdefaults⟩

/-- The control code and the node have been given the same lines, and the control code has
succeeded. Then the node finds every element that it binds to, so that `create_flows` does what it
does in a slate that binds everything. Where it succeeds, each flow with alternate destinations is
bound to the element that was created for it, and the validator of this element, which accepts the
destinations of this flow, still exists. -/
theorem control_serves_runtime {creates : List ControlElement → ControlElement → Bool}
    {o : ParserOutside c} {relay : String} {lines : List Line} {useSyncShard : Bool}
    {control : TelemetryRelayControl c} {ident : String} {muxedGroups : List Nat}
    {infos : List (FlowInfo c)} {outside : Outside c}
    (hcontrol : (TelemetryRelayControl.fresh c).init creates o relay lines useSyncShard =
      some control)
    (hparse : o.parseFile (.runtime ident) muxedGroups lines = some infos)
    (hbinds : Binds relay control.created outside) (aggregate : Bool)
    (serviceRedirects : TreeMap String Nat) (override : Service) :
    (Relay.fresh serviceRedirects override).createFlows outside aggregate
        (infos.map FlowInfo.toTelemetryFlowInfo) =
      (Relay.fresh serviceRedirects override).createFlows outside.bound aggregate
        (infos.map FlowInfo.toTelemetryFlowInfo) ∧
    ∀ r, (Relay.fresh serviceRedirects override).createFlows outside aggregate
        (infos.map FlowInfo.toTelemetryFlowInfo) = some r →
      ∀ info ∈ infos, info.hasAltDest = true → ∃ number,
        control.Chooses relay (if useSyncShard then .sync else .nonsync)
          info.toTelemetryFlowInfo number := by
  obtain ⟨hcontrols, halways, hdefault⟩ := init_controls hcontrol hparse
  refine ⟨create_flows_bound ?_ ?_ ?_ ?_ _, fun r hcreate info hmem hhas => ?_⟩
  · exact hbinds.alwaysEnabled ⟨_, halways, rfl, rfl, rfl⟩
  · exact hbinds.defaultDestination ⟨_, hdefault, rfl, rfl, rfl⟩
  · intro flow hmem hgated
    exact hbinds.enabled flow ⟨_, hcontrols.enabled flow hmem hgated, rfl, rfl, rfl⟩
  · intro flow hmem hhas
    obtain ⟨number, hcreated⟩ := hcontrols.destination flow hmem hhas
    exact hbinds.destination flow ⟨_, hcreated, rfl, rfl, rfl⟩
  · have hnodup : ((infos.map FlowInfo.toTelemetryFlowInfo).map TelemetryFlowInfo.id).Nodup := by
      cases aggregate with
      | false => exact (Relay.create_flows_direct hcreate).1.nodup
      | true => exact (Relay.create_flows_aggregated hcreate).1.nodup
    exact hcontrols.chooses hnodup _ (List.mem_map_of_mem hmem) hhas

namespace Sample

/-- A flow with an alternate destination, and a gated one. -/
def controlLines : List Line :=
  [["flow", "1", "slate"], ["type", "dgram"], ["destination", "ground", "ship"],
    ["alt_destination_1", "ship", "spare"], ["name", "video"], ["external_record", "only_a"],
    ["flow", "2", "slate"], ["type", "dgram"], ["destination", "ground"],
    ["disabled_destination", "spare"], ["name", "audio"]]

/-- A slate in which every path has one element. -/
def createsOnce (created : List ControlElement) (element : ControlElement) : Bool :=
  !created.any fun other => other.subSlates = element.subSlates ∧ other.name = element.name

/-- The control for these lines. -/
def control : TelemetryRelayControl constants :=
  ((TelemetryRelayControl.fresh constants).init createsOnce parserOutside "telem" controlLines
    true).getD (.fresh constants)

/-- The control that the sample file gives. -/
theorem control_eq : (TelemetryRelayControl.fresh constants).init createsOnce parserOutside "telem"
    controlLines true = some control := by
  have hsome : ((TelemetryRelayControl.fresh constants).init createsOnce parserOutside "telem"
      controlLines true).isSome = true := by decide +kernel
  obtain ⟨r, hr⟩ := Option.isSome_iff_exists.1 hsome
  rw [control, hr, Option.getD_some]

/-- The flows of the node. -/
def nodeInfos : List (FlowInfo constants) :=
  (parserOutside.parseFile (.runtime "a") [3] controlLines).getD []

/-- The flows that the sample's node reads in the same file. -/
theorem node_infos_eq :
    parserOutside.parseFile (.runtime "a") [3] controlLines = some nodeInfos := by
  have hsome : (parserOutside.parseFile (.runtime "a") [3] controlLines).isSome = true := by
    decide +kernel
  obtain ⟨infos, hinfos⟩ := Option.isSome_iff_exists.1 hsome
  rw [nodeInfos, hinfos, Option.getD_some]

/-- The slate of the node is the one in which the control elements were created. -/
def slateOutside : Outside constants where
  alwaysEnabledBound := Found control.created ["telem"] "always_enabled" .bool
  defaultDestinationBound := Found control.created ["telem"] "default_destination" .uint8
  answers flow :=
    { outside.answers flow with
      enabledBound := Found control.created ["telem", flow.name] "enabled" .bool
      destinationBound := Found control.created ["telem", flow.name] "destination" .uint8 }
  lookup := outside.lookup
  creates := outside.creates
  takes := outside.takes

/-- The sample's slate binds the elements that were created. -/
theorem slate_outside_binds : Binds "telem" control.created slateOutside where
  alwaysEnabled h := decide_eq_true h
  defaultDestination h := decide_eq_true h
  enabled _ h := decide_eq_true h
  destination _ h := decide_eq_true h

end Sample

/-- The node binds what the control code has created. -/
theorem sample_control_serves :
    Sample.relay.createFlows Sample.slateOutside false
        (Sample.nodeInfos.map FlowInfo.toTelemetryFlowInfo) =
      Sample.relay.createFlows Sample.slateOutside.bound false
        (Sample.nodeInfos.map FlowInfo.toTelemetryFlowInfo) :=
  (control_serves_runtime Sample.control_eq Sample.node_infos_eq Sample.slate_outside_binds false ∅
    ⟨"", 0, true⟩).1

end Codon.Telemetry
