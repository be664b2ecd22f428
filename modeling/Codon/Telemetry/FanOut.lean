import Codon.Library.Census
import Codon.Telemetry.Control

/-!
# What a flow is sent to

The control code and the node read the same configuration, and the destination of a flow is an
element of the control slate. Whatever it is set to, as far as its validator accepts it, and
whether the flow is enabled or not, the relay has as many connections for the flow as for its
default destination (`destinations_balanced`).
-/

namespace Codon.Telemetry

open Codon.Library Std

variable {c : Constants}

/-- The number of connections of a flow for a destination. -/
def Relay.fanOut (r : Relay c) (id : Nat) (destination : Destination c) : Nat :=
  r.connections.countP fun conn => conn.flow = id ∧ conn.destination = destination

/-- A value that the destination of a flow can have: the one it starts with, and where it is bound
to an element of its own, those that the validator of this element accepts. -/
def TelemetryRelayControl.Selects (control : TelemetryRelayControl c)
    (flow : TelemetryFlowInfo c) (value : Nat) : Prop :=
  value = 0 ∨ flow.hasAltDest = true ∧ ∃ number validator old,
    control.destValidators[flow.id]? = some number ∧
    control.validators[number]? = some validator ∧ (validator.validate value old).1 = true

/-- The hosts of a flow for a destination. -/
def TelemetryFlowInfo.hostsFor (flow : TelemetryFlowInfo c) : Destination c → List String
  | .alt i => flow.hosts i
  | .disabled => flow.disabledHosts

namespace TelemetryFlowInfo

variable (flow : TelemetryFlowInfo c) (destination : Destination c)

/-- The hosts that are wanted for a destination. -/
theorem count_wanted : (flow.wanted.countP fun want => want.1 = destination) =
    (flow.hostsFor destination).length := by
  rw [wanted, List.countP_append]
  cases destination with
  | alt i =>
      have hothers : (if flow.isGated then flow.disabledHosts.map fun host =>
          ((.disabled : Destination c), host) else []).countP
            (fun want => want.1 = .alt i) = 0 := by
        rw [List.countP_eq_zero]
        intro want hwant
        split_ifs at hwant
        · obtain ⟨host, -, rfl⟩ := List.mem_map.1 hwant
          simp
        · cases hwant
      rw [hothers, Nat.add_zero, count_flatMap_single (List.nodup_finRange _)
        (List.mem_finRange i)]
      · simp [List.countP_map, Function.comp_def, hostsFor]
      · intro j _ hne
        simp [List.countP_map, Function.comp_def, hne]
  | disabled =>
      have hothers : ((List.finRange (c.numAltDestinations + 1)).flatMap fun i =>
          (flow.hosts i).map fun host => ((.alt i : Destination c), host)).countP
            (fun want => want.1 = .disabled) = 0 := by
        rw [List.countP_eq_zero]
        intro want hwant
        obtain ⟨i, -, hmem⟩ := List.mem_flatMap.1 hwant
        obtain ⟨host, -, rfl⟩ := List.mem_map.1 hmem
        simp
      rw [hothers, Nat.zero_add]
      cases hhosts : flow.disabledHosts with
      | nil => simp [isGated, hostsFor, hhosts]
      | cons host hosts => simp [isGated, hostsFor, hhosts, List.countP_map, Function.comp_def]

end TelemetryFlowInfo

variable {flowInfo : List (TelemetryFlowInfo c)} {flow : TelemetryFlowInfo c}

/-- The demands of a flow for a destination. -/
theorem count_demands (hids : (flowInfo.map TelemetryFlowInfo.id).Nodup) (hmem : flow ∈ flowInfo)
    (destination : Destination c) :
    ((demands flowInfo).countP fun d => d.flow = flow.id ∧ d.destination = destination) =
      (flow.hostsFor destination).length := by
  rw [demands, count_flatMap_single hids.of_map hmem]
  · rw [List.countP_map, ← flow.count_wanted destination]
    refine List.countP_congr fun want _ => ?_
    rw [decide_eq_true_iff]
    show decide (flow.id = flow.id ∧ want.1 = destination) = true ↔ _
    rw [decide_eq_true_iff, and_iff_right rfl]
  · intro other hother hne
    rw [List.countP_eq_zero]
    intro d hd
    obtain ⟨want, -, rfl⟩ := List.mem_map.1 hd
    have hid : other.id ≠ flow.id := fun heq =>
      hne (List.inj_on_of_nodup_map hids hother hmem heq)
    simp [TelemetryFlowInfo.demand, hid]

section

variable {outside : Outside c} {serviceRedirects : TreeMap String Nat} {override : Service}
  {r r' : Relay c}

/-- The connections that are made, by their links. -/
theorem fan_out_eq (r : Relay c) (id : Nat) (destination : Destination c) :
    r.fanOut id destination = (r.connections.map Connection.link).countP
      fun link => link.1 = id ∧ link.2.1 = destination := by
  rw [List.countP_map]
  rfl

/-- A link is counted as often as it is demanded. -/
theorem count_demand_links (id : Nat) (destination : Destination c) :
    (((demands flowInfo).map Demand.link).countP
        fun link => link.1 = id ∧ link.2.1 = destination) =
      (demands flowInfo).countP fun d => d.flow = id ∧ d.destination = destination := by
  rw [List.countP_map]
  rfl

/-- A flow has a connection for each of its hosts, where no host is repeated if connections are
aggregated. -/
theorem fan_out_of_create_flows {aggregate : Bool}
    (h : (Relay.fresh serviceRedirects override).createFlows outside aggregate flowInfo = some r)
    (hdistinct : aggregate = true → ∀ flow ∈ flowInfo, flow.HostsDistinct) (hmem : flow ∈ flowInfo)
    (destination : Destination c) :
    r.fanOut flow.id destination = (flow.hostsFor destination).length := by
  cases aggregate with
  | false =>
      obtain ⟨hconfigured, hdirect⟩ := Relay.create_flows_direct h
      rw [fan_out_eq, hdirect.links_eq, count_demand_links,
        count_demands hconfigured.nodup hmem]
  | true =>
      obtain ⟨hconfigured, r₁, htallied, hserved⟩ := Relay.create_flows_aggregated h
      have hperm : (r.connections.map Connection.link).Perm ((demands flowInfo).map Demand.link) :=
        (List.perm_ext_iff_of_nodup (served_nodup hserved)
          (links_nodup hconfigured.nodup (hdistinct rfl))).2
            (mem_served_iff htallied hserved)
      rw [fan_out_eq, hperm.countP_eq, count_demand_links, count_demands hconfigured.nodup hmem]

/-- The checks that the flows have passed. -/
theorem create_flows_checked {aggregate : Bool}
    (h : (Relay.fresh serviceRedirects override).createFlows outside aggregate flowInfo = some r) :
    ∀ flow ∈ flowInfo, flow.gateValid (outside.answers flow) = true ∧
      flow.altDestinationsValid (outside.answers flow) = true := by
  obtain ⟨r₁, hloop, -⟩ := Relay.create_flows_eq_some h
  refine foldlM_prefix (P := fun earlier _ => ∀ flow ∈ earlier,
    flow.gateValid (outside.answers flow) = true ∧
      flow.altDestinationsValid (outside.answers flow) = true) hloop
    (fun _ hmem => (List.not_mem_nil hmem).elim) fun earlier s s' flow hs hstep other hmem => ?_
  rcases List.mem_append.1 hmem with hold | hnew
  · exact hs other hold
  · rw [List.mem_singleton.1 hnew]
    simp only [Relay.createFlow, Option.bind_eq_bind, Option.bind_eq_some_iff,
      Option.guard_eq_some'] at hstep
    obtain ⟨-, -, -, hgate, -, hdestinations, -⟩ := hstep
    exact ⟨hgate, hdestinations⟩

end

/-- The validator of a flow accepts the default destination and those that have hosts. -/
theorem destination_validator_iff {newValue value : Nat} :
    (flow.destinationValidator.validate newValue value).1 = true ↔
      ∃ i : Fin (c.numAltDestinations + 1), i.val = newValue ∧ (i = 0 ∨ flow.hosts i ≠ []) := by
  unfold TelemetryAltDestinationValidator.validate TelemetryFlowInfo.destinationValidator
  constructor
  · intro h
    split_ifs at h with hlt hvalid
    exact ⟨⟨newValue, hlt⟩, rfl, of_decide_eq_true hvalid⟩
  · rintro ⟨i, rfl, hvalid⟩
    rw [dif_pos i.isLt, if_pos (decide_eq_true hvalid)]

/-- A destination with hosts has as many as the default one. -/
theorem hosts_length_eq {answers : FlowAnswers} (h : flow.altDestinationsValid answers = true)
    {i : Fin (c.numAltDestinations + 1)} (hne : flow.hosts i ≠ []) :
    (flow.hosts i).length = (flow.hosts 0).length := by
  by_cases hzero : i = 0
  · rw [hzero]
  · obtain ⟨hall, -⟩ := Bool.and_eq_true_iff.1 h
    have hi := List.all_eq_true.1 hall i (List.mem_finRange i)
    have hlength : (flow.hosts 0).length = (flow.hosts i).length := by
      simp only [hzero, decide_false, Bool.false_or, Bool.or_eq_true, List.isEmpty_iff, hne,
        false_or, Bool.and_eq_true, decide_eq_true_iff] at hi
      exact hi.1
    exact hlength.symm

/-- A valid gated flow has a flag for each host. -/
theorem disabled_length_eq {answers : FlowAnswers} (h : flow.gateValid answers = true)
    (hgated : flow.isGated = true) : flow.disabledHosts.length = (flow.hosts 0).length := by
  unfold TelemetryFlowInfo.gateValid at h
  rw [hgated] at h
  simp only [Bool.not_true, Bool.false_or, Bool.and_eq_true, decide_eq_true_iff] at h
  exact h.1.1.symm

/-- A flow with hosts beyond the first list has an alternative destination. -/
theorem has_alt_dest {i : Fin (c.numAltDestinations + 1)} (hzero : i ≠ 0)
    (hne : flow.hosts i ≠ []) : flow.hasAltDest = true := by
  refine List.any_eq_true.2 ⟨i, List.mem_finRange i, ?_⟩
  cases hhosts : flow.hosts i with
  | nil => exact absurd hhosts hne
  | cons host hosts => simp [hzero]

namespace ParserOutside

/-- A flow that is parsed has a default destination. -/
theorem hosts_zero_ne_nil {o : ParserOutside c} (hstart : o.StartsEmpty) {kind : ParserKind}
    {muxedGroups : List Nat} {lines : List Line} {infos : List (FlowInfo c)}
    (h : o.parseFile kind muxedGroups lines = some infos) {info : FlowInfo c}
    (hmem : info ∈ infos) : info.hosts 0 ≠ [] := by
  obtain ⟨flows, -, hall⟩ := consumed_of_parse_file hstart h
  have hconsumed : ∃ flow, o.Consumes kind muxedGroups flow info := by
    clear h
    induction hall with
    | nil => cases hmem
    | cons hflow _ ih =>
        rcases List.mem_cons.1 hmem with rfl | hrest
        · exact ⟨_, hflow⟩
        · exact ih hrest
  obtain ⟨flow, hconsumes⟩ := hconsumed
  obtain ⟨_, _, _, _, -, -, hdest, -⟩ := hconsumes.parsed
  have htail : flow.destination.tail ≠ [] := by
    unfold parseDestinationLine at hdest
    split at hdest
    next host words hline => exact hline ▸ List.cons_ne_nil _ _
    next => cases hdest
  have hhosts := hconsumes.hostsOf hstart (.alt 0)
  rw [if_pos rfl] at hhosts
  show info.hostsOf (.alt 0) ≠ []
  rw [hhosts]
  exact fun hnil => htail (List.append_eq_nil_iff.1 hnil).1

end ParserOutside

/-- A flow is sent to as many services in whatever state its elements can be, and to none of those
of a destination that they cannot choose. -/
structure Balanced (control : TelemetryRelayControl c) (r : Relay c) (flow : TelemetryFlowInfo c) :
    Prop where
  positive : 0 < (flow.hosts 0).length
  selected : ∀ value, control.Selects flow value → ∃ i : Fin (c.numAltDestinations + 1),
    i.val = value ∧ r.fanOut flow.id (.alt i) = (flow.hosts 0).length
  refused : ∀ i : Fin (c.numAltDestinations + 1), ¬control.Selects flow i.val →
    r.fanOut flow.id (.alt i) = 0
  disabled : flow.isGated = true → r.fanOut flow.id .disabled = (flow.hosts 0).length

/-- The control code and the node have both succeeded on the same lines. Then what a flow takes of
the network does not depend on the control elements: whatever values the destination can be set to,
and whether the flow is enabled or not, it has as many connections as for its default destination,
at least one. Where connections are aggregated, no host may be repeated for a destination. -/
theorem destinations_balanced {creates : List ControlElement → ControlElement → Bool}
    {o : ParserOutside c} (hstart : o.StartsEmpty) {relay : String} {lines : List Line}
    {useSyncShard : Bool} {control : TelemetryRelayControl c}
    (hcontrol : (TelemetryRelayControl.fresh c).init creates o relay lines useSyncShard =
      some control)
    {ident : String} {muxedGroups : List Nat} {infos : List (FlowInfo c)}
    (hparse : o.parseFile (.runtime ident) muxedGroups lines = some infos)
    {outside : Outside c} {aggregate : Bool} {serviceRedirects : TreeMap String Nat}
    {override : Service} {r : Relay c}
    (hcreate : (Relay.fresh serviceRedirects override).createFlows outside aggregate
      (infos.map FlowInfo.toTelemetryFlowInfo) = some r)
    (hdistinct : aggregate = true → ∀ info ∈ infos, info.HostsDistinct) :
    ∀ info ∈ infos, Balanced control r info.toTelemetryFlowInfo := by
  intro info hinfo
  obtain ⟨hcontrols, -, -⟩ := init_controls hcontrol hparse
  have hmem := List.mem_map_of_mem (f := FlowInfo.toTelemetryFlowInfo) hinfo
  obtain ⟨hgate, hdestinations⟩ := create_flows_checked hcreate _ hmem
  -- what the relay connects for a flow are the hosts of the file
  have hfan (destination : Destination c) :
      r.fanOut info.id destination = (info.hostsFor destination).length :=
    fan_out_of_create_flows hcreate (fun haggregate => List.forall_mem_map.2 (hdistinct haggregate))
      hmem destination
  have hnodup : ((infos.map FlowInfo.toTelemetryFlowInfo).map TelemetryFlowInfo.id).Nodup := by
    cases aggregate with
    | false => exact (Relay.create_flows_direct hcreate).1.nodup
    | true => exact (Relay.create_flows_aggregated hcreate).1.nodup
  have hzero := ParserOutside.hosts_zero_ne_nil hstart hparse hinfo
  refine ⟨List.length_pos_of_ne_nil hzero, fun value hselects => ?_, fun i hrefused => ?_,
    fun hgated => ?_⟩
  · -- a value that the element accepts is zero or one of the lists with hosts
    have hchosen : ∃ i : Fin (c.numAltDestinations + 1), i.val = value ∧ info.hosts i ≠ [] := by
      rcases hselects with rfl | ⟨hhas, number, validator, old, howned, hmade, haccepted⟩
      · exact ⟨0, rfl, hzero⟩
      · obtain ⟨number', hchooses⟩ := hcontrols.chooses hnodup _ hmem hhas
        have hnumber : number' = number :=
          Option.some.inj (hchooses.owned.symm.trans howned)
        have hvalidator : info.destinationValidator = validator :=
          Option.some.inj (hchooses.made.symm.trans (hnumber ▸ hmade))
        rw [← hvalidator] at haccepted
        obtain ⟨i, hvalue, rfl | hne⟩ := destination_validator_iff.1 haccepted
        · exact ⟨0, hvalue, hzero⟩
        · exact ⟨i, hvalue, hne⟩
    obtain ⟨i, hvalue, hne⟩ := hchosen
    exact ⟨i, hvalue, (hfan (.alt i)).trans (hosts_length_eq hdestinations hne)⟩
  · -- a list with hosts would be accepted
    have hnone : info.hosts i = [] := by
      by_contra hne
      have hi : i ≠ 0 := fun heq => hrefused (.inl (by rw [heq]; rfl))
      have hhas := has_alt_dest hi hne
      obtain ⟨number, hchooses⟩ := hcontrols.chooses hnodup _ hmem hhas
      exact hrefused (.inr ⟨hhas, number, _, 0, hchooses.owned, hchooses.made,
        destination_validator_iff.2 ⟨i, rfl, .inr hne⟩⟩)
    have hfan := hfan (.alt i)
    rw [TelemetryFlowInfo.hostsFor, hnone] at hfan
    exact hfan
  · exact (hfan .disabled).trans (disabled_length_eq hgate hgated)

namespace Sample

/-- The relay of the node. -/
def nodeRelay (aggregate : Bool) : Relay constants :=
  (relay.createFlows slateOutside aggregate
    (nodeInfos.map FlowInfo.toTelemetryFlowInfo)).getD relay

/-- The relay that the sample's node creates. -/
theorem node_relay_eq (aggregate : Bool) :
    relay.createFlows slateOutside aggregate (nodeInfos.map FlowInfo.toTelemetryFlowInfo) =
      some (nodeRelay aggregate) := by
  have hsome : (relay.createFlows slateOutside aggregate
      (nodeInfos.map FlowInfo.toTelemetryFlowInfo)).isSome = true := by
    cases aggregate <;> decide +kernel
  obtain ⟨r, hr⟩ := Option.isSome_iff_exists.1 hsome
  rw [nodeRelay, hr, Option.getD_some]

end Sample

/-- In both modes. -/
theorem sample_destinations_balanced :
    (∀ info ∈ Sample.nodeInfos,
      Balanced Sample.control (Sample.nodeRelay false) info.toTelemetryFlowInfo) ∧
    ∀ info ∈ Sample.nodeInfos,
      Balanced Sample.control (Sample.nodeRelay true) info.toTelemetryFlowInfo :=
  ⟨destinations_balanced Sample.starts_empty Sample.control_eq Sample.node_infos_eq
      (Sample.node_relay_eq false) fun h => Bool.noConfusion h,
    destinations_balanced Sample.starts_empty Sample.control_eq Sample.node_infos_eq
      (Sample.node_relay_eq true) fun _ => by decide +kernel⟩

end Codon.Telemetry
