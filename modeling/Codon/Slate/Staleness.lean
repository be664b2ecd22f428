import Codon.Slate.Metrics

/-!
# Which sources are connected

After a cycle a source is connected exactly if an update of it was seen within the last
`stale_threshold` cycles, and its age counts the cycles since then until it reaches the
threshold. `seenAt` says when an update is seen, from the values of the freshness element
alone. Between the cycles anything may write the slate but for the metrics of the sources,
and the metrics share no byte with each other, the freshness elements and the outputs;
`run_tracks` is the result.
-/

namespace Codon.Slate

open Codon.Library

variable {B D : Type} {o : CombinerOutside B D} {rt : Runtime} {c : SlateCombiner}
  {slate slate' : SlateMemory}

/-- What `SlateCombiner` relies on of the stores of builders: an element that is created has its
initial value, nothing else changes in the memory, and binding changes nothing. -/
structure CreateLaws (o : CombinerOutside B D) (rt : Runtime) : Prop where
  load_created : ∀ d builder path type initialValue access id d',
    o.create d builder path type initialValue access = (some id, d') →
      rt.load ⟨id, type⟩ (o.initial d') = initialValue % 256 ^ rt.size ⟨id, type⟩
  load_kept : ∀ d builder path type initialValue access id d' elem,
    o.create d builder path type initialValue access = (some id, d') →
      rt.Apart ⟨id, type⟩ elem → rt.load elem (o.initial d') = rt.load elem (o.initial d)
  bind_read : ∀ d builder path type, o.initial (o.bindRead d builder path type).2 = o.initial d
  bind_write : ∀ d builder path type, o.initial (o.bindWrite d builder path type).2 = o.initial d

namespace SlateCombiner

/-- The cycles that a combiner has gone through, and the slate that they have led to. Between them
the slate may be written, but for the metrics of the sources. -/
inductive Run (c : SlateCombiner) (rt : Runtime) (o : CombinerOutside B D) (start : SlateMemory) :
    List Cycle → SlateMemory → Prop
  | start : Run c rt o start [] start
  | write {cycles slate slate'} (before : Run c rt o start cycles slate)
      (kept : ∀ metric ∈ c.sources.flatMap Source.metrics,
        rt.load metric slate' = rt.load metric slate) : Run c rt o start cycles slate'
  | cycle {cycles slate slate'} (before : Run c rt o start cycles slate) (call : CombineCall)
      (made : c.cycle rt o ⟨call, slate⟩ = some slate') :
      Run c rt o start (cycles ++ [⟨call, slate⟩]) slate'

end SlateCombiner

/-! ## Updates that are seen -/

/-- What a cycle shows of a source. -/
structure Observation where
  accepted : Int
  fresh : Int

/-- What cycles show of a source, the latest first. -/
def observations (o : CombinerOutside B D) (rt : Runtime) (source : Source) (cycles : List Cycle) :
    List Observation :=
  cycles.reverse.map fun cycle => ⟨cycle.accepted o, source.freshValue rt cycle.slate⟩

namespace CombinerOutside

/-- The freshness value of the last update that was seen. -/
def lastSeen (o : CombinerOutside B D) : List Observation → Int
  | [] => seqDefault
  | obs :: earlier =>
      if o.updated obs.accepted obs.fresh (lastSeen o earlier) then obs.fresh
      else lastSeen o earlier

/-- Whether an update is seen in the cycle that lies `k` cycles back. -/
def seenAt (o : CombinerOutside B D) : List Observation → Nat → Bool
  | [], _ => false
  | obs :: earlier, 0 => o.updated obs.accepted obs.fresh (o.lastSeen earlier)
  | _ :: earlier, k + 1 => seenAt o earlier k

/-- The number of cycles since an update was seen, up to a bound. -/
def cyclesSince (o : CombinerOutside B D) (bound : Nat) : List Observation → Nat
  | [] => bound
  | obs :: earlier =>
      if o.updated obs.accepted obs.fresh (o.lastSeen earlier) then 0
      else min bound (cyclesSince o bound earlier + 1)

/-- The count of cycles is bounded. -/
theorem cycles_since_le (o : CombinerOutside B D) (bound : Nat) (seen : List Observation) :
    o.cyclesSince bound seen ≤ bound := by
  cases seen with
  | nil => exact Nat.le_refl _
  | cons obs earlier =>
      rw [cyclesSince]
      split
      · exact Nat.zero_le _
      · exact Nat.min_le_left _ _

/-- Below the bound, the number is that of the latest update. -/
theorem cycles_since_eq_iff (o : CombinerOutside B D) {bound k : Nat} (hk : k < bound)
    (seen : List Observation) :
    o.cyclesSince bound seen = k ↔ o.seenAt seen k = true ∧ ∀ j < k, o.seenAt seen j = false := by
  induction seen generalizing k with
  | nil =>
      refine iff_of_false ?_ fun h => absurd h.1 Bool.false_ne_true
      exact Nat.ne_of_gt hk
  | cons obs earlier ih =>
      rw [cyclesSince]
      cases k with
      | zero =>
          split
          next hupdated =>
            exact iff_of_true rfl ⟨hupdated, fun j hj => absurd hj (Nat.not_lt_zero j)⟩
          next hupdated =>
            refine iff_of_false ?_ fun h => hupdated h.1
            omega
      | succ k =>
          split
          next hupdated =>
            refine iff_of_false (Nat.succ_ne_zero k).symm fun h => ?_
            exact absurd (h.2 0 (Nat.succ_pos k)) (by simpa [seenAt] using hupdated)
          next hupdated =>
            have hshift : min bound (o.cyclesSince bound earlier + 1) = k + 1 ↔
                o.cyclesSince bound earlier = k := by
              omega
            rw [hshift, ih (Nat.lt_of_succ_lt hk)]
            refine and_congr Iff.rfl ⟨fun h j hj => ?_, fun h j hj => h (j + 1) (by omega)⟩
            cases j with
            | zero => simpa [seenAt] using hupdated
            | succ j => exact h j (by omega)

/-- The number is below the bound exactly if an update was seen fewer cycles ago. -/
theorem cycles_since_lt_iff (o : CombinerOutside B D) (bound : Nat) (seen : List Observation) :
    o.cyclesSince bound seen < bound ↔ ∃ k < bound, o.seenAt seen k = true := by
  constructor
  · intro h
    exact ⟨_, h, ((o.cycles_since_eq_iff h seen).1 rfl).1⟩
  · rintro ⟨k, hk, hseen⟩
    have hexists : ∃ k, o.seenAt seen k = true := ⟨k, hseen⟩
    have hlt : Nat.find hexists < bound := (Nat.find_min' hexists hseen).trans_lt hk
    have hfirst := (o.cycles_since_eq_iff hlt seen).2 ⟨Nat.find_spec hexists, fun j hj =>
      eq_false_of_ne_true (Nat.find_min hexists hj)⟩
    rwa [hfirst]

end CombinerOutside

/-- One cycle more is one observation more. -/
theorem observations_append (o : CombinerOutside B D) (rt : Runtime) (source : Source)
    (cycles : List Cycle) (cycle : Cycle) :
    observations o rt source (cycles ++ [cycle]) =
      ⟨cycle.accepted o, source.freshValue rt cycle.slate⟩ :: observations o rt source cycles := by
  rw [observations, List.reverse_append, List.reverse_singleton, List.singleton_append,
    List.map_cons, observations]

/-! ## The metrics of a source -/

/-- The metrics of a source say what has been seen of it. -/
structure Source.Tracked (o : CombinerOutside B D) (rt : Runtime) (threshold : UInt8)
    (seen : List Observation) (slate : SlateMemory) (source : Source) : Prop where
  freshLast : signedInt 8 (rt.load source.freshLast slate) = o.lastSeen seen
  freshAge : rt.load source.freshAge slate = o.cyclesSince threshold.toNat seen
  connected : rt.load source.connected slate ≠ 0 ↔
    rt.load source.freshAge slate < threshold.toNat

namespace Source

variable {source : Source} {threshold : UInt8} {seen : List Observation}

/-- One cycle. The age does not wrap, since it only grows below the threshold. -/
theorem Tracked.updated (h : source.Tracked o rt threshold seen slate) {accepted : Int}
    (hupdated : source.Updated o rt threshold accepted slate slate') :
    source.Tracked o rt threshold (⟨accepted, source.freshValue rt slate⟩ :: seen) slate' := by
  have hupdates : source.updates o rt accepted slate =
      o.updated accepted (source.freshValue rt slate) (o.lastSeen seen) := by
    rw [updates, h.freshLast]
  have hage : source.nextAge o rt threshold accepted slate =
      o.cyclesSince threshold.toNat (⟨accepted, source.freshValue rt slate⟩ :: seen) := by
    have hle := o.cycles_since_le threshold.toNat seen
    rw [nextAge, CombinerOutside.cyclesSince, hupdates, h.freshAge]
    split
    next => rfl
    next => split <;> omega
  refine ⟨?_, hupdated.freshAge.trans hage, ?_⟩
  · rw [hupdated.freshLast, hupdates, CombinerOutside.lastSeen]
    split_ifs
    · rw [freshValue]
    · exact h.freshLast
  · rw [hupdated.connected, hupdated.freshAge]
    simp

/-- What the metrics say depends on them alone. -/
theorem Tracked.congr (h : source.Tracked o rt threshold seen slate)
    (hkept : ∀ metric ∈ source.metrics, rt.load metric slate' = rt.load metric slate) :
    source.Tracked o rt threshold seen slate' := by
  have hlast := hkept source.freshLast (by simp [metrics])
  have hage := hkept source.freshAge (by simp [metrics])
  have hconnected := hkept source.connected (by simp [metrics])
  exact ⟨hlast ▸ h.freshLast, hage ▸ h.freshAge, by rw [hconnected, hage]; exact h.connected⟩

end Source

/-! ## The metrics that `init` creates -/

section Created

variable {args : CombinerArgs B} {sub : B} {d d' : D}

/-- The metrics of a source have their initial values. -/
structure Source.AtStart (rt : Runtime) (threshold : UInt8) (slate : SlateMemory)
    (source : Source) : Prop where
  freshLast : rt.load source.freshLast slate = seqDefaultBits
  freshAge : rt.load source.freshAge slate = threshold.toNat
  connected : rt.load source.connected slate = 0

/-- What a source starts from is in its metrics. -/
theorem Source.AtStart.congr {source : Source} {threshold : UInt8}
    (h : source.AtStart rt threshold slate)
    (hkept : ∀ metric ∈ source.metrics, rt.load metric slate' = rt.load metric slate) :
    source.AtStart rt threshold slate' :=
  ⟨(hkept source.freshLast (by simp [Source.metrics])).trans h.freshLast,
    (hkept source.freshAge (by simp [Source.metrics])).trans h.freshAge,
    (hkept source.connected (by simp [Source.metrics])).trans h.connected⟩

/-- A round of the loop over the sources creates metrics with their initial values, and changes
nothing else. -/
theorem init_source_made (hlaws : CreateLaws o rt) {state state' : List Source × D}
    {builder : CombinerIn B} (h : o.initSource args sub state builder = .ok state') :
    ∃ source, state'.1 = state.1 ++ [source] ∧
      (source.metrics.Pairwise rt.Apart →
        source.AtStart rt args.staleThreshold (o.initial state'.2)) ∧
      ∀ elem, (∀ metric ∈ source.metrics, rt.Apart metric elem) →
        rt.load elem (o.initial state'.2) = rt.load elem (o.initial state.2) := by
  obtain ⟨source, d₁, d₂, d₃, hfresh, hlast, hage, hconnected, happended⟩ := init_source_ok h
  have hbind := hlaws.bind_read state.2 builder.builder args.fresh .int64
  rw [hfresh] at hbind
  refine ⟨source, happended, fun hapart => ?_, ?_⟩
  · obtain ⟨hfirst, hrest⟩ := List.pairwise_cons.1 hapart
    have hlastAge : rt.Apart source.freshLast source.freshAge :=
      hfirst _ List.mem_cons_self
    have hlastConnected : rt.Apart source.freshLast source.connected :=
      hfirst _ (List.mem_cons_of_mem _ List.mem_cons_self)
    have hageConnected : rt.Apart source.freshAge source.connected :=
      (List.pairwise_cons.1 hrest).1 _ List.mem_cons_self
    refine ⟨?_, ?_, ?_⟩
    · refine (hlaws.load_kept _ _ _ _ _ _ _ _ _ hconnected hlastConnected.symm).trans ?_
      refine (hlaws.load_kept _ _ _ _ _ _ _ _ _ hage hlastAge.symm).trans ?_
      exact hlaws.load_created _ _ _ _ _ _ _ _ hlast
    · refine (hlaws.load_kept _ _ _ _ _ _ _ _ _ hconnected hageConnected.symm).trans ?_
      refine (hlaws.load_created _ _ _ _ _ _ _ _ hage).trans (Nat.mod_eq_of_lt ?_)
      exact args.staleThreshold.toNat_lt
    · exact hlaws.load_created _ _ _ _ _ _ _ _ hconnected
  · intro elem helem
    have hlastElem : rt.Apart source.freshLast elem := helem _ List.mem_cons_self
    have hageElem : rt.Apart source.freshAge elem :=
      helem _ (List.mem_cons_of_mem _ List.mem_cons_self)
    have hconnectedElem : rt.Apart source.connected elem :=
      helem _ (List.mem_cons_of_mem _ (List.mem_cons_of_mem _ List.mem_cons_self))
    rw [hlaws.load_kept _ _ _ _ _ _ _ _ _ hconnected hconnectedElem,
      hlaws.load_kept _ _ _ _ _ _ _ _ _ hage hageElem,
      hlaws.load_kept _ _ _ _ _ _ _ _ _ hlast hlastElem, hbind]

/-- The loop over the sources leaves the metrics of all of them as they are at the start. -/
theorem init_sources_made (hlaws : CreateLaws o rt) {builders : List (CombinerIn B)}
    {state' : List Source × D} (h : builders.foldlM (o.initSource args sub) ([], d) = .ok state')
    (hapart : (state'.1.flatMap Source.metrics).Pairwise rt.Apart) :
    ∀ source ∈ state'.1, source.AtStart rt args.staleThreshold (o.initial state'.2) := by
  revert hapart
  refine foldlM_ok_prefix (P := fun _ (state' : List Source × D) =>
    (state'.1.flatMap Source.metrics).Pairwise rt.Apart →
      ∀ source ∈ state'.1, source.AtStart rt args.staleThreshold (o.initial state'.2)) h
    (fun _ _ hsource => by cases hsource) ?_
  intro _ before after builder hbefore hround hapart source hsource
  obtain ⟨made, hmade, hstart, hkept⟩ := init_source_made hlaws hround
  rw [hmade, List.flatMap_append, List.flatMap_singleton] at hapart
  obtain ⟨hold, hnew, hbetween⟩ := List.pairwise_append.1 hapart
  rw [hmade] at hsource
  rcases List.mem_append.1 hsource with hin | hin
  · refine (hbefore hold source hin).congr fun metric hmetric => hkept metric fun other hother => ?_
    exact (hbetween metric (List.mem_flatMap.2 ⟨source, hin, hmetric⟩) other hother).symm
  · rw [List.mem_singleton.1 hin]
    exact hstart hnew

/-- After `init`, nothing has been seen of the sources. -/
theorem init_tracked (hlaws : CreateLaws o rt) {c₀ : SlateCombiner} (hsources : c₀.sources = [])
    (hinit : o.init rt args c₀ d = .ok (c, d')) (hapart : c.MetricsApart rt) :
    ∀ source ∈ c.sources,
      source.Tracked o rt c.staleThreshold [] (o.initial d') := by
  obtain ⟨-, -, hthreshold, state, sub, sources, d₁, tok, -, hmade, hconnected, rfl⟩ :=
    init_ok hinit
  rw [hsources] at hmade
  obtain ⟨hcombined, hmetrics⟩ := List.pairwise_cons.1 hapart.1
  intro source hsource
  have hkept : ∀ metric ∈ source.metrics,
      rt.load metric (o.initial d') = rt.load metric (o.initial d₁) := by
    intro metric hmetric
    unfold CombinerOutside.initConnected at hconnected
    split at hconnected
    next =>
      have hbind := hlaws.bind_write d₁ sub "connected" .bool
      rw [hconnected] at hbind
      rw [hbind]
    next =>
      refine hlaws.load_kept _ _ _ _ _ _ _ _ _ hconnected ?_
      exact hcombined metric (List.mem_flatMap.2 ⟨source, hsource, hmetric⟩)
  have hstart := (init_sources_made hlaws hmade hmetrics source hsource).congr hkept
  refine ⟨?_, hstart.freshAge, ?_⟩
  · rw [hstart.freshLast]
    rfl
  · rw [hstart.connected, hstart.freshAge]
    simp

end Created

/-! ## Runs -/

namespace SlateCombiner

/-- What the metrics say after some cycles. -/
structure Tracks (c : SlateCombiner) (rt : Runtime) (o : CombinerOutside B D) (threshold : UInt8)
    (cycles : List Cycle) (slate : SlateMemory) : Prop where
  connected : ∀ source ∈ c.sources, rt.load source.connected slate ≠ 0 ↔ ∃ k < threshold.toNat,
    o.seenAt (observations o rt source cycles) k = true
  combined : rt.load c.combinedConnected slate ≠ 0 ↔
    ∃ source ∈ c.sources, rt.load source.connected slate ≠ 0
  age : ∀ source ∈ c.sources, ∀ k < threshold.toNat, rt.load source.freshAge slate = k ↔
    o.seenAt (observations o rt source cycles) k = true ∧
      ∀ j < k, o.seenAt (observations o rt source cycles) j = false
  age_le : ∀ source ∈ c.sources, rt.load source.freshAge slate ≤ threshold.toNat

/-- One cycle: the metrics say what has been seen up to it, and the combined flag is that of some
source. -/
theorem cycle_tracked (hapart : c.MetricsApart rt) {cycles : List Cycle}
    (htracked : ∀ source ∈ c.sources,
      source.Tracked o rt c.staleThreshold (observations o rt source cycles) slate)
    {call : CombineCall} (h : c.cycle rt o ⟨call, slate⟩ = some slate') :
    (∀ source ∈ c.sources, source.Tracked o rt c.staleThreshold
        (observations o rt source (cycles ++ [⟨call, slate⟩])) slate') ∧
      (rt.load c.combinedConnected slate' ≠ 0 ↔
        ∃ source ∈ c.sources, rt.load source.connected slate' ≠ 0) := by
  obtain ⟨indices, -, hstore⟩ := cycle_spec h
  obtain ⟨hupdated, hcombined⟩ :=
    update_sources_spec o ((⟨call, slate⟩ : Cycle).accepted o) slate hapart
  -- the outputs are not metrics
  have hkept (metric : Element) (hmetric : metric ∈ c.metrics) : rt.load metric slate' =
      rt.load metric (c.updateSources rt o ((⟨call, slate⟩ : Cycle).accepted o) slate).1 :=
    load_store_outputs (fun batch hbatch => ((hapart.2 metric hmetric).2 batch hbatch).symm) hstore
  have hmetrics (source : Source) (hsource : source ∈ c.sources) (metric : Element)
      (hmetric : metric ∈ source.metrics) : metric ∈ c.metrics :=
    List.mem_cons_of_mem _ (List.mem_flatMap.2 ⟨source, hsource, hmetric⟩)
  constructor
  · intro source hsource
    rw [observations_append]
    exact ((htracked source hsource).updated (hupdated source hsource)).congr
      fun metric hmetric => hkept metric (hmetrics source hsource metric hmetric)
  · rw [hkept _ List.mem_cons_self, hcombined]
    refine exists_congr fun source => and_congr_right fun hsource => ?_
    rw [hkept _ (hmetrics source hsource _ (by simp [Source.metrics]))]

/-- In a run, the metrics of every source say what has been seen of it. -/
theorem run_tracked (hapart : c.MetricsApart rt) {start : SlateMemory}
    (hstart : ∀ source ∈ c.sources, source.Tracked o rt c.staleThreshold [] start)
    {cycles : List Cycle} (hrun : c.Run rt o start cycles slate) :
    ∀ source ∈ c.sources,
      source.Tracked o rt c.staleThreshold (observations o rt source cycles) slate := by
  induction hrun with
  | start => exact hstart
  | write before kept ih =>
      exact fun source hsource => (ih source hsource).congr fun metric hmetric =>
        kept metric (List.mem_flatMap.2 ⟨source, hsource, hmetric⟩)
  | cycle before call made ih => exact (cycle_tracked hapart ih made).1

/-- After every cycle of every run, a source is connected exactly if an update of it was seen within
the last `stale_threshold` cycles, the combined flag says whether some source is, and the age of a
source is the number of cycles since then, up to the threshold. -/
theorem run_tracks (hlaws : CreateLaws o rt) {args : CombinerArgs B} {c₀ : SlateCombiner} {d d' : D}
    (hsources : c₀.sources = []) (hinit : o.init rt args c₀ d = .ok (c, d'))
    (hapart : c.MetricsApart rt) {cycles : List Cycle}
    (hrun : c.Run rt o (o.initial d') cycles slate)
    {call : CombineCall} (hcycle : c.cycle rt o ⟨call, slate⟩ = some slate') :
    c.sources.length = args.buildersIn.length ∧
      c.Tracks rt o args.staleThreshold (cycles ++ [⟨call, slate⟩]) slate' := by
  have hthreshold : c.staleThreshold = args.staleThreshold := by
    obtain ⟨-, -, -, _, _, _, _, _, -, -, -, rfl⟩ := init_ok hinit
    rfl
  have hlength : c.sources.length = args.buildersIn.length := by
    obtain ⟨-, -, -, state, sub, sources, d₁, tok, -, hmade, -, rfl⟩ := init_ok hinit
    obtain ⟨made, hlength, heq⟩ := init_sources hmade
    rw [hsources, List.nil_append] at heq
    exact (congrArg List.length heq).trans hlength
  obtain ⟨htracked, hcombined⟩ :=
    cycle_tracked hapart (run_tracked hapart (init_tracked hlaws hsources hinit hapart) hrun) hcycle
  rw [hthreshold] at htracked
  refine ⟨hlength, ⟨fun source h => ?_, hcombined, fun source h k hk => ?_, fun source h => ?_⟩⟩
  · rw [(htracked source h).connected, (htracked source h).freshAge, o.cycles_since_lt_iff]
  · rw [(htracked source h).freshAge, o.cycles_since_eq_iff hk]
  · rw [(htracked source h).freshAge]
    exact o.cycles_since_le _ _

end SlateCombiner

namespace Sample

/-- The slate after a call, if it gives a result. -/
def slateAfter (c : SlateCombiner) (call : CombineCall) (slate : SlateMemory) : SlateMemory :=
  (c.cycle runtime combinerOutside ⟨call, slate⟩).getD slate

/-- The slate after a cycle that succeeds. -/
theorem cycle_eq (c : SlateCombiner) (call : CombineCall) (slate : SlateMemory)
    (h : (c.cycle runtime combinerOutside ⟨call, slate⟩).isSome = true) :
    c.cycle runtime combinerOutside ⟨call, slate⟩ = some (slateAfter c call slate) := by
  obtain ⟨slate', hcycle⟩ := Option.isSome_iff_exists.1 h
  rw [slateAfter, hcycle]
  rfl

/-- An element that is created is written after all others. -/
theorem initial_append (d : Directory) (name : String) (type : SlateType) (initialValue : Nat) :
    combinerOutside.initial (d ++ [(name, type, initialValue)]) =
      runtime.write ⟨16 * d.length, type⟩ initialValue (combinerOutside.initial d) := by
  simp [combinerOutside, List.zipIdx_append]

/-- An element created in the sample directory is its next entry. -/
theorem create_in_ok {d d' : Directory} {builder path : String} {type : SlateType}
    {initialValue id : Nat} (h : createIn d builder path type initialValue = (some id, d')) :
    id = 16 * d.length ∧ d' = d ++ [(builder ++ "." ++ path, type, initialValue)] := by
  unfold createIn at h
  simp only at h
  split at h
  next => cases h
  next =>
    cases h
    exact ⟨rfl, rfl⟩

/-- The sample's directory creates as it should. -/
theorem create_laws : CreateLaws combinerOutside runtime where
  load_created d builder path type initialValue access id d' h := by
    obtain ⟨rfl, rfl⟩ := create_in_ok h
    rw [initial_append, Runtime.load_write_self]
  load_kept d builder path type initialValue access id d' elem h hapart := by
    obtain ⟨rfl, rfl⟩ := create_in_ok h
    rw [initial_append, Runtime.load_write_apart hapart]
  bind_read _ _ _ _ := rfl
  bind_write _ _ _ _ := rfl

/-- A slate with two sources. -/
def countsAndRates : Directory :=
  directory [("a.count", .int64), ("b.count", .int64), ("a.rate", .int32), ("b.rate", .int32)]

/-- A combiner of the rates, which may be missing for one cycle. -/
def twoSources : CombinerArgs String :=
  { combinerArgs ["a", "b"] "out" false [["rate", "int32"]] with staleThreshold := 2 }

/-- The combiner that `init` makes. -/
def ratesCombiner : SlateCombiner where
  isInit := true
  downselect := false
  numSources := 2
  staleThreshold := 2
  bins := [⟨some .int32, [64, 32, 48]⟩]
  sources := [⟨0, 80, 96, 112⟩, ⟨16, 128, 144, 160⟩]
  combinedConnectedTok := 176

/-- The slate with its output and its metrics. -/
def ratesAndMetrics : Directory :=
  countsAndRates ++
    [("out.rate", .int32, 0), ("out.combiner.a.fresh_last", .int64, 2 ^ 63),
      ("out.combiner.a.fresh_age", .uint8, 2), ("out.combiner.a.connected", .bool, 0),
      ("out.combiner.b.fresh_last", .int64, 2 ^ 63), ("out.combiner.b.fresh_age", .uint8, 2),
      ("out.combiner.b.connected", .bool, 0), ("out.combiner.connected", .bool, 0)]

/-- The sources write their counts. -/
def counts (a b : Nat) (slate : SlateMemory) : SlateMemory :=
  runtime.write ⟨0, .int64⟩ a (runtime.write ⟨16, .int64⟩ b slate)

/-- Both sources update, and then only the first does, for two cycles. -/
def firstSlate : SlateMemory := counts 1 1 (combinerOutside.initial ratesAndMetrics)
def secondSlate : SlateMemory := counts 2 1 (slateAfter ratesCombiner .combine firstSlate)
def thirdSlate : SlateMemory := slateAfter ratesCombiner .combine secondSlate

/-- The counts are not metrics. -/
theorem counts_kept (a b : Nat) (slate : SlateMemory) :
    ∀ metric ∈ ratesCombiner.sources.flatMap Source.metrics,
      runtime.load metric (counts a b slate) = runtime.load metric slate := by
  intro metric hmetric
  have hapart : ∀ metric ∈ ratesCombiner.sources.flatMap Source.metrics,
      runtime.Apart ⟨0, .int64⟩ metric ∧ runtime.Apart ⟨16, .int64⟩ metric := by
    decide
  rw [counts, Runtime.load_write_apart (hapart metric hmetric).1,
    Runtime.load_write_apart (hapart metric hmetric).2]

/-- The theorem on three cycles, in which a source goes stale. -/
theorem three_cycles_tracked :
    ratesCombiner.sources.length = 2 ∧
      ratesCombiner.Tracks runtime combinerOutside 2
        [⟨.combine, firstSlate⟩, ⟨.combine, secondSlate⟩, ⟨.validateAndCombine 2, thirdSlate⟩]
        (slateAfter ratesCombiner (.validateAndCombine 2) thirdSlate) := by
  have hinit : combinerOutside.init runtime twoSources .new countsAndRates =
      .ok (ratesCombiner, ratesAndMetrics) := by
    decide +kernel
  have hfirst := cycle_eq ratesCombiner .combine firstSlate (by decide +kernel)
  have hsecond := cycle_eq ratesCombiner .combine secondSlate (by decide +kernel)
  have hthird := cycle_eq ratesCombiner (.validateAndCombine 2) thirdSlate (by decide +kernel)
  have hrun := ((SlateCombiner.Run.start.write (counts_kept 1 1 _)).cycle .combine hfirst).write
    (counts_kept 2 1 _) |>.cycle .combine hsecond
  exact SlateCombiner.run_tracks create_laws rfl hinit (by decide) hrun hthird

/-- The flag of the combined output is also the output of an element that is combined. -/
def flagSlate : Directory :=
  directory
    [("a.count", .int64), ("a.combiner.connected", .bool), ("out.combiner.connected", .bool)]

def flagArgs : CombinerArgs String :=
  { combinerArgs ["a"] "out" false [["combiner.connected", "bool"]] with
    bindOutputs := true
    bindMetrics := true }

def flagCombiner : SlateCombiner where
  isInit := true
  downselect := false
  numSources := 1
  staleThreshold := 1
  bins := [⟨some .bool, [32, 16]⟩]
  sources := [⟨0, 48, 64, 80⟩]
  combinedConnectedTok := 32

def flagAndMetrics : Directory :=
  flagSlate ++
    [("out.combiner.a.fresh_last", .int64, 2 ^ 63), ("out.combiner.a.fresh_age", .uint8, 1),
      ("out.combiner.a.connected", .bool, 0)]

/-- A slate in which only one of two sources has a count. -/
def oneCount : Directory := directory [("a.count", .int64), ("c.count", .int64)]

/-- What `init` leaves with the sources `a` and `b`. -/
def sourceLeft : SlateCombiner where
  isInit := false
  downselect := false
  numSources := 2
  staleThreshold := 1
  bins := []
  sources := [⟨0, 32, 48, 64⟩]
  combinedConnectedTok := 0

def oneCountLeft : Directory :=
  oneCount ++
    [("out.combiner.a.fresh_last", .int64, 2 ^ 63), ("out.combiner.a.fresh_age", .uint8, 1),
      ("out.combiner.a.connected", .bool, 0)]

/-- The next call has one source and a greater threshold. -/
def againArgs : CombinerArgs String :=
  { combinerArgs ["c"] "out" false [] with combinerName := "again", staleThreshold := 3 }

def againCombiner : SlateCombiner where
  isInit := true
  downselect := false
  numSources := 1
  staleThreshold := 3
  bins := []
  sources := [⟨0, 32, 48, 64⟩, ⟨16, 80, 96, 112⟩]
  combinedConnectedTok := 128

def againAndMetrics : Directory :=
  oneCountLeft ++
    [("out.again.c.fresh_last", .int64, 2 ^ 63), ("out.again.c.fresh_age", .uint8, 3),
      ("out.again.c.connected", .bool, 0), ("out.again.connected", .bool, 0)]

/-- With a bound flag that is an output, a source is connected and the combined flag says that none
is. With a source that a failed `init` has left, one is connected that has never been updated. -/
theorem connected_misreported :
    (combinerOutside.init runtime flagArgs .new flagSlate = .ok (flagCombiner, flagAndMetrics) ∧
      flagCombiner.cycle runtime combinerOutside
          ⟨.combine, runtime.write ⟨0, .int64⟩ 7 (combinerOutside.initial flagAndMetrics)⟩ =
        some (slateAfter flagCombiner .combine
          (runtime.write ⟨0, .int64⟩ 7 (combinerOutside.initial flagAndMetrics))) ∧
      (∃ source ∈ flagCombiner.sources, runtime.load source.connected
        (slateAfter flagCombiner .combine
          (runtime.write ⟨0, .int64⟩ 7 (combinerOutside.initial flagAndMetrics))) ≠ 0) ∧
      runtime.load flagCombiner.combinedConnected (slateAfter flagCombiner .combine
        (runtime.write ⟨0, .int64⟩ 7 (combinerOutside.initial flagAndMetrics))) = 0) ∧
    (combinerOutside.init runtime (combinerArgs ["a", "b"] "out" false []) .new oneCount =
        .error (some (sourceLeft, oneCountLeft)) ∧
      combinerOutside.init runtime againArgs sourceLeft oneCountLeft =
        .ok (againCombiner, againAndMetrics) ∧
      againCombiner.cycle runtime combinerOutside
          ⟨.combine, combinerOutside.initial againAndMetrics⟩ =
        some (slateAfter againCombiner .combine (combinerOutside.initial againAndMetrics)) ∧
      ∃ source ∈ againCombiner.sources,
        runtime.load source.connected (slateAfter againCombiner .combine
          (combinerOutside.initial againAndMetrics)) ≠ 0 ∧
        ∀ k, combinerOutside.seenAt (observations combinerOutside runtime source
          [⟨.combine, combinerOutside.initial againAndMetrics⟩]) k = false) := by
  refine ⟨⟨by decide +kernel, cycle_eq _ _ _ (by decide +kernel), by decide +kernel,
    by decide +kernel⟩, by decide +kernel, by decide +kernel, cycle_eq _ _ _ (by decide +kernel),
    ⟨0, 32, 48, 64⟩, List.mem_cons_self, by decide +kernel, fun k => ?_⟩
  cases k with
  | zero => decide +kernel
  | succ k => rfl

end Sample

end Codon.Slate
