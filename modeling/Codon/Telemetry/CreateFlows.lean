import Mathlib.Data.List.Nodup
import Mathlib.Data.Option.Basic
import Codon.Telemetry.Relay

/-!
# The connections of the flows

What `create_flows` asks for follows from the configuration: `demands` lists every destination and
host of every flow with the size of its buffer. In both modes the flows are connected to what is
demanded, each once (`Direct.links_eq`, `Aggregated.mem_links_iff`). With one connection for each
service its buffer is sized as all demands together, in the arithmetic of `size_t`, so that the
modes agree exactly where no sum overflows (`aggregated_agrees_iff`).
-/

namespace Codon.Telemetry

open Codon.Library Std

variable {c : Constants}

/-- A flow demands a connection to a service with a buffer of some size. -/
structure Demand (c : Constants) where
  flow : Nat
  destination : Destination c
  service : String
  bufferSize : Nat

/-- Which flow is connected to which service for which destination. -/
abbrev Link (c : Constants) : Type := Nat × Destination c × String

def Demand.link (d : Demand c) : Link c := (d.flow, d.destination, d.service)

def Demand.request (d : Demand c) : Request := ⟨d.service, d.bufferSize⟩

def Connection.link (conn : Connection c) : Link c := (conn.flow, conn.destination, conn.service)

def TelemetryFlowInfo.demand (flow : TelemetryFlowInfo c) (want : Destination c × String) :
    Demand c :=
  ⟨flow.id, want.1, want.2, flow.bufferSize⟩

/-- What a configuration demands. -/
def demands (flowInfo : List (TelemetryFlowInfo c)) : List (Demand c) :=
  flowInfo.flatMap fun flow => flow.wanted.map flow.demand

/-- The size of all buffers that are requested for a service. -/
def total (requests : List Request) (service : String) : Nat :=
  ((requests.filter fun request => request.service = service).map Request.bufferSize).sum

/-- No host is repeated within a list of destinations. -/
def TelemetryFlowInfo.HostsDistinct (flow : TelemetryFlowInfo c) : Prop :=
  (∀ i, (flow.hosts i).Nodup) ∧ flow.disabledHosts.Nodup

instance (flow : TelemetryFlowInfo c) : Decidable flow.HostsDistinct :=
  inferInstanceAs (Decidable ((∀ i, (flow.hosts i).Nodup) ∧ flow.disabledHosts.Nodup))

/-- The flows of a relay are those of the configuration. -/
structure Configured (flowInfo : List (TelemetryFlowInfo c)) (r : Relay c) : Prop where
  nodup : (flowInfo.map TelemetryFlowInfo.id).Nodup
  mem_ids_iff : ∀ id, (∃ (group : Nat) (ids : List Nat), r.ids[group]? = some ids ∧ id ∈ ids) ↔
    id ∈ flowInfo.map TelemetryFlowInfo.id
  mem_config_iff : ∀ id, id ∈ r.idToConfigInfo ↔ id ∈ flowInfo.map TelemetryFlowInfo.id
  mem_flows_iff : ∀ id, id ∈ r.flows ↔ id ∈ flowInfo.map TelemetryFlowInfo.id
  claimed_eq : r.claimedIds = ∅
  not_finalized : r.isFinalized = false

namespace Relay

variable {outside : Outside c} {r r' : Relay c} {flow : TelemetryFlowInfo c}

/-! ## The calls of one flow -/

/-- Getting a connection makes one request. -/
theorem get_connection_eq_some {service : String} {size : Nat} {writer : Writer}
    (h : r.getConnection outside service size = some (writer, r')) :
    ∃ created, r' = { r with requests := r.requests ++ [⟨service, size⟩], created := created } := by
  obtain ⟨found, -, h⟩ := Option.bind_eq_some_iff.1 h
  split at h
  · cases h
    exact ⟨_, rfl⟩
  · rw [createConnection] at h
    split_ifs at h
    cases h
    exact ⟨_, rfl⟩

/-- A connection is added at the end. -/
theorem add_connection_eq_some {id : Nat} {destination : Destination c} {service : String}
    {writer : Writer} (h : r.addConnection outside id destination service writer = some r') :
    r' = { r with connections := r.connections ++ [⟨id, destination, service, writer⟩] } := by
  rw [addConnection] at h
  split_ifs at h
  exact (Option.some.inj h).symm

/-- Connecting a destination asks for a connection and adds it. -/
theorem connect_eq_some {want : Destination c × String}
    (h : r.connect outside flow want = some r') :
    ∃ writer created, r' = { r with
      requests := r.requests ++ [(flow.demand want).request]
      connections := r.connections ++ [⟨flow.id, want.1, want.2, writer⟩]
      created := created } := by
  obtain ⟨⟨writer, r₁⟩, hget, hadd⟩ := Option.bind_eq_some_iff.1 h
  obtain ⟨created, rfl⟩ := get_connection_eq_some hget
  exact ⟨writer, created, add_connection_eq_some hadd⟩

/-- The connections of one flow, where it has its own. -/
theorem connect_all {wants : List (Destination c × String)}
    (h : wants.foldlM (fun (r : Relay c) want => r.connect outside flow want) r = some r') :
    ∃ connections created, connections.map Connection.link =
        wants.map (fun want => (flow.demand want).link) ∧
      r' = { r with
        requests := r.requests ++ wants.map fun want => (flow.demand want).request
        connections := r.connections ++ connections
        created := created } := by
  refine foldlM_prefix (P := fun earlier (r' : Relay c) => ∃ connections created,
    connections.map Connection.link = earlier.map (fun want => (flow.demand want).link) ∧
      r' = { r with
        requests := r.requests ++ earlier.map fun want => (flow.demand want).request
        connections := r.connections ++ connections
        created := created }) h ?_ ?_
  · exact ⟨[], r.created, rfl, by simp⟩
  · rintro earlier s s' want ⟨connections, created, hlinks, rfl⟩ hstep
    obtain ⟨writer, created', rfl⟩ := connect_eq_some hstep
    refine ⟨connections ++ [⟨flow.id, want.1, want.2, writer⟩], created', ?_, ?_⟩
    · rw [List.map_append, hlinks, List.map_append]
      rfl
    · simp

/-- What the connecting of a flow leaves alone. -/
structure SameSetup (r r' : Relay c) : Prop where
  ids_eq : r'.ids = r.ids
  config_eq : r'.idToConfigInfo = r.idToConfigInfo
  flows_eq : r'.flows = r.flows
  claimed_eq : r'.claimedIds = r.claimedIds
  finalized_eq : r'.isFinalized = r.isFinalized

/-- What two steps leave alone both leave alone. -/
theorem SameSetup.trans {r'' : Relay c} (h : r.SameSetup r') (h' : r'.SameSetup r'') :
    r.SameSetup r'' :=
  ⟨h'.ids_eq.trans h.ids_eq, h'.config_eq.trans h.config_eq, h'.flows_eq.trans h.flows_eq,
    h'.claimed_eq.trans h.claimed_eq, h'.finalized_eq.trans h.finalized_eq⟩

/-- Connecting a destination leaves the setup. -/
theorem connect_same {want : Destination c × String}
    (h : r.connect outside flow want = some r') : r.SameSetup r' := by
  obtain ⟨writer, created, rfl⟩ := connect_eq_some h
  exact ⟨rfl, rfl, rfl, rfl, rfl⟩

/-- Tallying a destination leaves the setup. -/
theorem tally_same (r : Relay c) (flow : TelemetryFlowInfo c) (want : Destination c × String) :
    r.SameSetup (r.tally flow want) := by
  obtain ⟨destination, host⟩ := want
  cases destination <;> exact ⟨rfl, rfl, rfl, rfl, rfl⟩

/-- What the loop over the configuration does for one flow. -/
theorem create_flow_eq_some {aggregate : Bool} (h : createFlow outside aggregate r flow = some r') :
    flow.id ∉ r.idToConfigInfo ∧ ∃ r₁, flow.wanted.foldlM (fun (r : Relay c) want =>
        if aggregate then some (r.tally flow want) else r.connect outside flow want)
        { r.addId flow with idToConfigInfo := r.idToConfigInfo.insert flow.id flow } = some r₁ ∧
      r' = { r₁ with flows := r₁.flows.insert flow.id } := by
  have hconfig : (r.addId flow).idToConfigInfo = r.idToConfigInfo := by
    rw [addId]
    split_ifs <;> rfl
  simp only [createFlow, hconfig, Option.bind_eq_bind, Option.bind_eq_some_iff,
    Option.guard_eq_some'] at h
  obtain ⟨-, hnew, -, -, -, -, -, -, -, -, -, -, -, -, r₁, hloop, heq⟩ := h
  exact ⟨hnew, r₁, hloop, (Option.some.inj heq).symm⟩

/-- A flow is entered under its number. -/
theorem add_id_same (r : Relay c) (flow : TelemetryFlowInfo c) :
    (r.addId flow).ids = r.ids.insert flow.group (r.ids.getD flow.group [] ++ [flow.id]) ∧
      (r.addId flow).flows = r.flows ∧ (r.addId flow).claimedIds = r.claimedIds ∧
      (r.addId flow).isFinalized = r.isFinalized := by
  rw [addId]
  split_ifs <;> exact ⟨rfl, rfl, rfl, rfl⟩

/-- A flow is added to its group. -/
theorem mem_ids_insert {ids : TreeMap Nat (List Nat)} (group : Nat) {id id' : Nat} :
    (∃ (g : Nat) (l : List Nat),
        (ids.insert group (ids.getD group [] ++ [id]))[g]? = some l ∧ id' ∈ l) ↔
      (∃ (g : Nat) (l : List Nat), ids[g]? = some l ∧ id' ∈ l) ∨ id' = id := by
  simp only [TreeMap.getElem?_insert, LawfulEqCmp.compare_eq_iff_eq]
  have hgroup : id' ∈ ids.getD group [] ↔ ∃ l, ids[group]? = some l ∧ id' ∈ l := by
    rw [TreeMap.getD_eq_getD_getElem?]
    cases ids[group]? <;> simp
  constructor
  · rintro ⟨g, l, hl, hmem⟩
    split_ifs at hl with heq
    · cases hl
      rcases List.mem_append.1 hmem with hold | hnew
      · obtain ⟨l, hl, hmem⟩ := hgroup.1 hold
        exact .inl ⟨group, l, hl, hmem⟩
      · exact .inr (List.mem_singleton.1 hnew)
    · exact .inl ⟨g, l, hl, hmem⟩
  · rintro (⟨g, l, hl, hmem⟩ | rfl)
    · by_cases heq : group = g
      · subst heq
        exact ⟨group, _, if_pos rfl, List.mem_append.2 (.inl (hgroup.2 ⟨l, hl, hmem⟩))⟩
      · exact ⟨g, l, by rw [if_neg heq, hl], hmem⟩
    · exact ⟨group, _, if_pos rfl, List.mem_append.2 (.inr (List.mem_singleton.2 rfl))⟩

/-- One more flow of the configuration. -/
theorem create_flow_configured {aggregate : Bool} {earlier : List (TelemetryFlowInfo c)}
    (hconfigured : Configured earlier r) (h : createFlow outside aggregate r flow = some r') :
    Configured (earlier ++ [flow]) r' := by
  obtain ⟨hnew, r₁, hloop, rfl⟩ := create_flow_eq_some h
  obtain ⟨hids, hflows, hclaimed, hfinalized⟩ := r.add_id_same flow
  have hsame := foldlM_invariant (P := fun r₂ => SameSetup
      { r.addId flow with idToConfigInfo := r.idToConfigInfo.insert flow.id flow } r₂) hloop
    ⟨rfl, rfl, rfl, rfl, rfl⟩ fun s s' want _ hs hstep => by
      split_ifs at hstep
      · cases hstep
        exact hs.trans (s.tally_same flow want)
      · exact hs.trans (connect_same hstep)
  rw [hconfigured.mem_config_iff] at hnew
  have hmem (id : Nat) : id ∈ (earlier ++ [flow]).map TelemetryFlowInfo.id ↔
      id ∈ earlier.map TelemetryFlowInfo.id ∨ id = flow.id := by
    rw [List.map_append, List.mem_append, List.map_singleton, List.mem_singleton]
  refine ⟨?_, fun id => ?_, fun id => ?_, fun id => ?_, ?_, ?_⟩
  · rw [List.map_append, List.map_singleton, List.nodup_append]
    refine ⟨hconfigured.nodup, List.nodup_singleton _, fun id hid id' hid' heq => hnew ?_⟩
    rwa [← List.mem_singleton.1 hid', ← heq]
  · rw [hmem, ← hconfigured.mem_ids_iff, ← mem_ids_insert flow.group]
    simp only [hsame.ids_eq, hids]
  · rw [hmem, ← hconfigured.mem_config_iff]
    simp only [hsame.config_eq, TreeMap.mem_insert, LawfulEqCmp.compare_eq_iff_eq]
    exact ⟨fun h => h.symm.imp_right Eq.symm, fun h => h.symm.imp_left Eq.symm⟩
  · rw [hmem, ← hconfigured.mem_flows_iff]
    simp only [hsame.flows_eq, hflows, TreeSet.mem_insert, LawfulEqCmp.compare_eq_iff_eq]
    exact ⟨fun h => h.symm.imp_right Eq.symm, fun h => h.symm.imp_left Eq.symm⟩
  · exact hsame.claimed_eq.trans (hclaimed.trans hconfigured.claimed_eq)
  · exact hsame.finalized_eq.trans (hfinalized.trans hconfigured.not_finalized)

/-! ## A connection for each flow and destination -/

/-- The demands of a flow are the last ones. -/
theorem demands_append (earlier : List (TelemetryFlowInfo c)) (flow : TelemetryFlowInfo c) :
    demands (earlier ++ [flow]) = demands earlier ++ flow.wanted.map flow.demand := by
  rw [demands, List.flatMap_append, List.flatMap_singleton]
  rfl

/-- What has been asked for and told is what is demanded. -/
structure Direct (flowInfo : List (TelemetryFlowInfo c)) (r : Relay c) : Prop where
  links_eq : r.connections.map Connection.link = (demands flowInfo).map Demand.link
  requests_eq : r.requests = (demands flowInfo).map Demand.request

/-- A flow asks for and is told what it demands. -/
theorem create_flow_direct {earlier : List (TelemetryFlowInfo c)} (hdirect : Direct earlier r)
    (h : createFlow outside false r flow = some r') : Direct (earlier ++ [flow]) r' := by
  obtain ⟨-, r₁, hloop, rfl⟩ := create_flow_eq_some h
  simp only [Bool.false_eq_true, if_false] at hloop
  obtain ⟨connections, created, hlinks, rfl⟩ := connect_all hloop
  have hsame : (r.addId flow).connections = r.connections ∧
      (r.addId flow).requests = r.requests := by
    rw [addId]
    split_ifs <;> exact ⟨rfl, rfl⟩
  constructor
  · simp only [hsame.1, List.map_append, hdirect.links_eq, hlinks, demands_append, List.map_map]
    rfl
  · simp only [hsame.2, List.map_append, hdirect.requests_eq, demands_append, List.map_map]
    rfl

/-! ## A connection for each service -/

/-- The size of the buffers that are demanded for a service. -/
def demanded (ds : List (Demand c)) (service : String) : Nat :=
  total (ds.map Demand.request) service

/-- A demand adds to what is demanded for its service. -/
theorem demanded_append (ds : List (Demand c)) (d : Demand c) (service : String) :
    demanded (ds ++ [d]) service =
      demanded ds service + if d.service = service then d.bufferSize else 0 := by
  simp only [demanded, total, List.map_append, List.filter_append, List.sum_append]
  congr 1
  simp only [Demand.request, List.map_singleton, List.filter_singleton]
  split_ifs with h <;> simp [h]

/-- The tallies after some demands. -/
structure Tallied (ds : List (Demand c)) (r : Relay c) : Prop where
  sizes_eq : ∀ service, r.bufferSizeByDestination[service]? =
    if service ∈ ds.map Demand.service then some (u64 (demanded ds service)) else none
  mem_alt_iff : ∀ service id i, (id, i) ∈ r.flowsAndAltDestByDestination.getD service ∅ ↔
    (id, .alt i, service) ∈ ds.map Demand.link
  mem_disabled_iff : ∀ service id, id ∈ r.flowsByDisabledDestination.getD service ∅ ↔
    (id, .disabled, service) ∈ ds.map Demand.link
  connections_eq : r.connections = []
  requests_eq : r.requests = []

/-- A demand adds its service. -/
theorem mem_services_append (ds : List (Demand c)) (d : Demand c) (service : String) :
    service ∈ (ds ++ [d]).map Demand.service ↔
      service ∈ ds.map Demand.service ∨ service = d.service := by
  rw [List.map_append, List.mem_append, List.map_singleton, List.mem_singleton]

/-- A demand adds its link. -/
theorem mem_links_append (ds : List (Demand c)) (d : Demand c) (link : Link c) :
    link ∈ (ds ++ [d]).map Demand.link ↔ link ∈ ds.map Demand.link ∨ link = d.link := by
  rw [List.map_append, List.mem_append, List.map_singleton, List.mem_singleton]

/-- Nothing is demanded for a service without demands. -/
theorem not_demanded {ds : List (Demand c)} {service : String}
    (h : service ∉ ds.map Demand.service) : demanded ds service = 0 := by
  have hnone : (ds.map Demand.request).filter (fun q => q.service = service) = [] := by
    rw [List.filter_eq_nil_iff]
    rintro q hq heq
    obtain ⟨d, hd, rfl⟩ := List.mem_map.1 hq
    exact h (List.mem_map.2 ⟨d, hd, of_decide_eq_true heq⟩)
  rw [demanded, total, hnone]
  rfl

/-- One more demand is added to the size for its service. -/
theorem Tallied.tally_sizes {ds : List (Demand c)} (h : Tallied ds r) (flow : TelemetryFlowInfo c)
    (want : Destination c × String) (service : String) :
    ((r.tally flow want).bufferSizeByDestination)[service]? =
      if service ∈ (ds ++ [flow.demand want]).map Demand.service then
        some (u64 (demanded (ds ++ [flow.demand want]) service)) else none := by
  have hinsert : (r.tally flow want).bufferSizeByDestination =
      r.bufferSizeByDestination.insert want.2
        (u64 (r.bufferSizeByDestination.getD want.2 0 + flow.bufferSize)) := by
    obtain ⟨destination, host⟩ := want
    cases destination <;> rfl
  have hgetD : u64 (r.bufferSizeByDestination.getD want.2 0 + flow.bufferSize) =
      u64 (demanded ds want.2 + flow.bufferSize) := by
    rw [TreeMap.getD_eq_getD_getElem?, h.sizes_eq]
    split_ifs with hmem
    · rw [Option.getD_some, u64, u64, u64, Nat.mod_add_mod]
    · rw [Option.getD_none, not_demanded hmem]
  rw [hinsert, TreeMap.getElem?_insert, hgetD, demanded_append]
  simp only [LawfulEqCmp.compare_eq_iff_eq, mem_services_append]
  by_cases heq : want.2 = service
  · subst heq
    simp [TelemetryFlowInfo.demand]
  · have hne : service ≠ (flow.demand want).service := Ne.symm heq
    rw [if_neg heq, h.sizes_eq]
    simp only [hne, or_false, if_neg (Ne.symm hne), Nat.add_zero]

/-- One more demand is tallied. -/
theorem Tallied.tally {ds : List (Demand c)} (h : Tallied ds r) (flow : TelemetryFlowInfo c)
    (want : Destination c × String) : Tallied (ds ++ [flow.demand want]) (r.tally flow want) := by
  have hsize := h.tally_sizes flow want
  obtain ⟨destination, host⟩ := want
  cases destination with
  | alt i =>
      refine ⟨hsize, fun service id j => ?_, fun service id => ?_, h.connections_eq,
        h.requests_eq⟩
      · rw [mem_links_append, ← h.mem_alt_iff]
        simp only [Relay.tally, TreeMap.getD_insert, LawfulEqCmp.compare_eq_iff_eq]
        split_ifs with heq
        · subst heq
          rw [TreeSet.mem_insert, LawfulEqCmp.compare_eq_iff_eq]
          simp [TelemetryFlowInfo.demand, Demand.link, or_comm, eq_comm]
        · simp [TelemetryFlowInfo.demand, Demand.link, Ne.symm heq]
      · rw [mem_links_append, ← h.mem_disabled_iff]
        simp [Relay.tally, TelemetryFlowInfo.demand, Demand.link]
  | disabled =>
      refine ⟨hsize, fun service id j => ?_, fun service id => ?_, h.connections_eq,
        h.requests_eq⟩
      · rw [mem_links_append, ← h.mem_alt_iff]
        simp [Relay.tally, TelemetryFlowInfo.demand, Demand.link]
      · rw [mem_links_append, ← h.mem_disabled_iff]
        simp only [Relay.tally, TreeMap.getD_insert, LawfulEqCmp.compare_eq_iff_eq]
        split_ifs with heq
        · subst heq
          rw [TreeSet.mem_insert, LawfulEqCmp.compare_eq_iff_eq]
          simp [TelemetryFlowInfo.demand, Demand.link, or_comm, eq_comm]
        · simp [TelemetryFlowInfo.demand, Demand.link, Ne.symm heq]

/-- A flow is tallied with its demands. -/
theorem create_flow_tallied {earlier : List (TelemetryFlowInfo c)}
    (htallied : Tallied (demands earlier) r) (h : createFlow outside true r flow = some r') :
    Tallied (demands (earlier ++ [flow])) r' := by
  obtain ⟨-, r₁, hloop, rfl⟩ := create_flow_eq_some h
  simp only [if_true] at hloop
  have hstart : Tallied (demands earlier)
      { r.addId flow with idToConfigInfo := r.idToConfigInfo.insert flow.id flow } := by
    rw [addId]
    split_ifs <;> exact ⟨htallied.sizes_eq, htallied.mem_alt_iff, htallied.mem_disabled_iff,
      htallied.connections_eq, htallied.requests_eq⟩
  have hend := foldlM_prefix (P := fun wants r₂ =>
      Tallied (demands earlier ++ wants.map flow.demand) r₂) hloop
    (by rwa [List.map_nil, List.append_nil]) fun wants s s' want hs hstep => by
      cases hstep
      rw [List.map_append, List.map_singleton, ← List.append_assoc]
      exact hs.tally flow want
  rw [demands_append]
  exact ⟨hend.sizes_eq, hend.mem_alt_iff, hend.mem_disabled_iff, hend.connections_eq,
    hend.requests_eq⟩

/-- The flows that were tallied for a service all get the connection. -/
theorem connect_tallied_all {service : String} {writer : Writer}
    {wants : List (Nat × Destination c)}
    (h : wants.foldlM (connectTallied outside service writer) r = some r') :
    r' = { r with
      connections := r.connections ++
        wants.map (fun want => ⟨want.1, want.2, service, writer⟩) } := by
  refine foldlM_prefix (P := fun earlier r' => r' = { r with
    connections := r.connections ++
      earlier.map (fun want => ⟨want.1, want.2, service, writer⟩) }) h (by simp) ?_
  rintro earlier s s' want rfl hstep
  obtain ⟨-, -, hadd⟩ := Option.bind_eq_some_iff.1 hstep
  rw [add_connection_eq_some hadd]
  simp

/-- Connecting a service asks for one connection for all its demands. -/
theorem connect_service_eq_some {service : String × Nat}
    (h : connectService outside r service = some r') :
    ∃ writer created, r' = { r with
      requests := r.requests ++ [⟨service.1, service.2⟩]
      connections := r.connections ++
        ((r.tallied service.1).map fun want => ⟨want.1, want.2, service.1, writer⟩)
      created := created } := by
  obtain ⟨⟨writer, r₁⟩, hget, hloop⟩ := Option.bind_eq_some_iff.1 h
  obtain ⟨created, rfl⟩ := get_connection_eq_some hget
  exact ⟨writer, created, connect_tallied_all hloop⟩

/-- Some of the services have been connected, from the tallies of `r`. -/
structure Served (r : Relay c) (done : List (String × Nat)) (r' : Relay c) : Prop where
  same : r.SameSetup r'
  tallied_eq : ∀ service, r'.tallied service = r.tallied service
  requests_eq : r'.requests = done.map fun service => ⟨service.1, service.2⟩
  links_eq : r'.connections.map Connection.link = done.flatMap fun service =>
    (r.tallied service.1).map fun want => (want.1, want.2, service.1)
  writer_eq : (done.map Prod.fst).Nodup → ∀ conn ∈ r'.connections, ∀ conn' ∈ r'.connections,
    conn.service = conn'.service → conn.writer = conn'.writer

/-- Connections are to services that have been connected. -/
theorem Served.service_mem {done : List (String × Nat)} (h : Served r done r')
    {conn : Connection c} (hconn : conn ∈ r'.connections) : conn.service ∈ done.map Prod.fst := by
  have hlink : conn.link ∈ r'.connections.map Connection.link := List.mem_map_of_mem hconn
  rw [h.links_eq, List.mem_flatMap] at hlink
  obtain ⟨service, hservice, hmem⟩ := hlink
  obtain ⟨want, -, heq⟩ := List.mem_map.1 hmem
  exact List.mem_map.2 ⟨service, hservice, congrArg (fun link : Link c => link.2.2) heq⟩

/-- One more service is connected. -/
theorem Served.step {done : List (String × Nat)} {r'' : Relay c} (h : Served r done r')
    {service : String × Nat} (hstep : connectService outside r' service = some r'') :
    Served r (done ++ [service]) r'' := by
  obtain ⟨writer, created, rfl⟩ := connect_service_eq_some hstep
  refine ⟨h.same.trans ⟨rfl, rfl, rfl, rfl, rfl⟩, h.tallied_eq, ?_, ?_, ?_⟩
  · rw [List.map_append, ← h.requests_eq]
    rfl
  · simp only [List.map_append, List.flatMap_append, List.flatMap_singleton, h.links_eq,
      h.tallied_eq, List.map_map]
    rfl
  · intro hnodup
    rw [List.map_append, List.map_singleton, List.nodup_append] at hnodup
    have hnew (conn : Connection c) (hconn : conn ∈ r'.connections) :
        conn.service ≠ service.1 := fun heq =>
      hnodup.2.2 _ (h.service_mem hconn) _ (List.mem_singleton.2 rfl) heq
    intro conn hconn conn' hconn' heq
    rcases List.mem_append.1 hconn with hold | hadded <;>
      rcases List.mem_append.1 hconn' with hold' | hadded'
    · exact h.writer_eq hnodup.1 conn hold conn' hold' heq
    · obtain ⟨want, -, rfl⟩ := List.mem_map.1 hadded'
      exact absurd heq (hnew conn hold)
    · obtain ⟨want, -, rfl⟩ := List.mem_map.1 hadded
      exact absurd heq.symm (hnew conn' hold')
    · obtain ⟨want, -, rfl⟩ := List.mem_map.1 hadded
      obtain ⟨want', -, rfl⟩ := List.mem_map.1 hadded'
      rfl

/-! ## Both modes -/

/-- A new relay has no flows. -/
theorem fresh_configured (serviceRedirects : TreeMap String Nat) (override : Service) :
    Configured [] (fresh (c := c) serviceRedirects override) where
  nodup := List.nodup_nil
  mem_ids_iff id := by simp [fresh]
  mem_config_iff id := by simp [fresh]
  mem_flows_iff id := by simp [fresh]
  claimed_eq := rfl
  not_finalized := rfl

/-- The configuration is part of the setup. -/
theorem configured_congr {flowInfo : List (TelemetryFlowInfo c)} (h : Configured flowInfo r)
    (hsame : r.SameSetup r') : Configured flowInfo r' where
  nodup := h.nodup
  mem_ids_iff id := by rw [hsame.ids_eq, h.mem_ids_iff]
  mem_config_iff id := by rw [hsame.config_eq, h.mem_config_iff]
  mem_flows_iff id := by rw [hsame.flows_eq, h.mem_flows_iff]
  claimed_eq := hsame.claimed_eq.trans h.claimed_eq
  not_finalized := hsame.finalized_eq.trans h.not_finalized

variable {serviceRedirects : TreeMap String Nat} {override : Service}
  {flowInfo : List (TelemetryFlowInfo c)}

/-- The flows are created first, and then the services connected where connections are aggregated.
-/
theorem create_flows_eq_some {aggregate : Bool}
    (h : r.createFlows outside aggregate flowInfo = some r') :
    ∃ r₁, flowInfo.foldlM (createFlow outside aggregate) r = some r₁ ∧
      (if aggregate then
        r₁.bufferSizeByDestination.toList.foldlM (connectService outside) r₁ else some r₁) =
        some r' := by
  simp only [createFlows, Option.bind_eq_bind, Option.bind_eq_some_iff, Option.guard_eq_some'] at h
  obtain ⟨-, -, -, -, r₁, hloop, hrest⟩ := h
  exact ⟨r₁, hloop, hrest⟩

/-- The services that were tallied are all connected. -/
theorem served (h : r.bufferSizeByDestination.toList.foldlM (connectService outside) r = some r')
    (hconnections : r.connections = []) (hrequests : r.requests = []) :
    Served r r.bufferSizeByDestination.toList r' :=
  foldlM_prefix h ⟨⟨rfl, rfl, rfl, rfl, rfl⟩, fun _ => rfl, hrequests, by rw [hconnections]; rfl,
    fun _ conn hconn => by rw [hconnections] at hconn; cases hconn⟩
    fun _ _ _ _ hs hstep => hs.step hstep

/-- What is known of the relay after `create_flows` with a connection for each flow and
destination. -/
theorem create_flows_direct
    (h : (fresh serviceRedirects override).createFlows outside false flowInfo = some r') :
    Configured flowInfo r' ∧ Direct flowInfo r' := by
  obtain ⟨r₁, hloop, hrest⟩ := create_flows_eq_some h
  cases hrest
  exact foldlM_prefix (P := fun earlier r => Configured earlier r ∧ Direct earlier r) hloop
    ⟨fresh_configured _ _, rfl, rfl⟩ fun _ _ _ _ hs hstep =>
      ⟨create_flow_configured hs.1 hstep, create_flow_direct hs.2 hstep⟩

/-- And with a connection for each service. -/
theorem create_flows_aggregated
    (h : (fresh serviceRedirects override).createFlows outside true flowInfo = some r') :
    Configured flowInfo r' ∧ ∃ r₁, Tallied (demands flowInfo) r₁ ∧
      Served r₁ r₁.bufferSizeByDestination.toList r' := by
  obtain ⟨r₁, hloop, hrest⟩ := create_flows_eq_some h
  rw [if_pos rfl] at hrest
  obtain ⟨hconfigured, htallied⟩ := foldlM_prefix
    (P := fun earlier r => Configured earlier r ∧ Tallied (demands earlier) r) hloop
    ⟨fresh_configured _ _, fun _ => by simp [fresh, demands], fun _ _ _ => by simp [fresh, demands],
      fun _ _ => by simp [fresh, demands], rfl, rfl⟩
    fun _ _ _ _ hs hstep => ⟨create_flow_configured hs.1 hstep, create_flow_tallied hs.2 hstep⟩
  have hserved := served hrest htallied.connections_eq htallied.requests_eq
  exact ⟨configured_congr hconfigured hserved.same, r₁, htallied, hserved⟩

end Relay

end Codon.Telemetry
