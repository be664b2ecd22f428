import Codon.Slate.CombinerInit

/-!
# The metrics that a cycle writes

The metrics of a combiner are elements of the slate, and the one of the combined output may be
any that there was. A cycle changes nothing but them and the outputs (`load_update_sources`,
`load_store_outputs`). If they share no bytes with each other and with the freshness elements
(`MetricsApart`), the loop over the sources makes of the metrics of each source what its
freshness element and they were before (`update_sources_spec`).
-/

namespace Codon.Slate

open Codon.Library

variable {B D : Type} {o : CombinerOutside B D} {rt : Runtime} {c : SlateCombiner}
  {slate slate' : SlateMemory}

/-- The calls that make a cycle. -/
inductive CombineCall where
  | combine
  | validateAndCombine (accepted : Int)

/-- A cycle: the call, and the slate that it finds. -/
structure Cycle where
  call : CombineCall
  slate : SlateMemory

/-- The sequence number that a cycle accepts. -/
def Cycle.accepted (o : CombinerOutside B D) (cycle : Cycle) : Int :=
  match cycle.call with
  | .combine => o.sharerInvalidSequenceNumber
  | .validateAndCombine accepted => accepted

/-- The elements that the combiner has created for a source. -/
def Source.metrics (source : Source) : List Element :=
  [source.freshLast, source.freshAge, source.connected]

namespace SlateCombiner

/-- The slate after a cycle. -/
def cycle (c : SlateCombiner) (rt : Runtime) (o : CombinerOutside B D) (cycle : Cycle) :
    Option SlateMemory :=
  match cycle.call with
  | .combine => c.combine rt o cycle.slate
  | .validateAndCombine accepted => c.validateAndCombine rt o accepted cycle.slate

/-- The sources that a cycle finds connected. -/
def connectedSources (c : SlateCombiner) (rt : Runtime) (o : CombinerOutside B D) (cycle : Cycle) :
    List Nat :=
  (c.updateSources rt o (cycle.accepted o) cycle.slate).2

/-- All metrics. -/
def metrics (c : SlateCombiner) : List Element :=
  c.combinedConnected :: c.sources.flatMap Source.metrics

/-- The metrics share no byte with each other, and with no freshness element and no output. -/
def MetricsApart (c : SlateCombiner) (rt : Runtime) : Prop :=
  c.metrics.Pairwise rt.Apart ∧ ∀ metric ∈ c.metrics,
    (∀ source ∈ c.sources, rt.Apart metric source.fresh) ∧
      ∀ batch ∈ c.batches, rt.Apart metric batch.out

instance : Decidable (c.MetricsApart rt) := inferInstanceAs (Decidable (_ ∧ _))

/-- The metrics share no byte with an input. -/
def InputsSpared (c : SlateCombiner) (rt : Runtime) : Prop :=
  ∀ metric ∈ c.metrics, ∀ batch ∈ c.batches, ∀ source < c.numSources,
    rt.Apart metric (batch.input source)

instance : Decidable (c.InputsSpared rt) :=
  inferInstanceAs (Decidable (∀ metric ∈ c.metrics, ∀ batch ∈ c.batches, ∀ source < c.numSources,
    rt.Apart metric (batch.input source)))

/-- The metrics share no byte with an output. -/
def OutputsSpared (c : SlateCombiner) (rt : Runtime) : Prop :=
  ∀ metric ∈ c.metrics, ∀ batch ∈ c.batches, rt.Apart metric batch.out

instance : Decidable (c.OutputsSpared rt) :=
  inferInstanceAs (Decidable (∀ metric ∈ c.metrics, ∀ batch ∈ c.batches, rt.Apart metric batch.out))

/-- What a cycle does to the slate. -/
theorem cycle_spec {cycle : Cycle} (h : c.cycle rt o cycle = some slate') :
    ∃ indices,
      c.usedIndices rt (c.updateSources rt o (cycle.accepted o) cycle.slate).1
        ((c.connectedSources rt o cycle).map (· + 1)) = some indices ∧
      c.storeOutputs rt o (c.updateSources rt o (cycle.accepted o) cycle.slate).1 indices =
        some slate' := by
  have hcall : c.validateAndCombine rt o (cycle.accepted o) cycle.slate = some slate' := by
    unfold SlateCombiner.cycle at h
    unfold Cycle.accepted
    cases hc : cycle.call with
    | combine =>
        rw [hc] at h
        exact h
    | validateAndCombine accepted =>
        rw [hc] at h
        exact h
  unfold validateAndCombine at hcall
  split_ifs at hcall
  obtain ⟨indices, hindices, hstore⟩ := Option.bind_eq_some_iff.1 hcall
  exact ⟨indices, hindices, hstore⟩

/-! ## What a cycle leaves alone -/

variable {accepted : Int}

/-- The first part of a round changes nothing but the metrics of its source. -/
theorem load_age_source {elem : Element} {source : Source}
    (hmetrics : ∀ metric ∈ source.metrics, rt.Apart metric elem) :
    rt.load elem (c.ageSource rt o accepted source slate) = rt.load elem slate := by
  have hlast : rt.Apart source.freshLast elem := hmetrics _ (by simp [Source.metrics])
  have hage : rt.Apart source.freshAge elem := hmetrics _ (by simp [Source.metrics])
  have hconnected : rt.Apart source.connected elem := hmetrics _ (by simp [Source.metrics])
  rw [ageSource]
  split
  · rw [Runtime.load_write_apart hage, Runtime.load_write_apart hlast,
      Runtime.load_write_apart hconnected]
  · split
    · rw [Runtime.load_write_apart hage, Runtime.load_write_apart hconnected]
    · rw [Runtime.load_write_apart hconnected]

/-- A round of the loop over the sources changes nothing but metrics. -/
theorem load_update_source {elem : Element} {entry : Source × Nat}
    {state : SlateMemory × List Nat} (hcombined : rt.Apart c.combinedConnected elem)
    (hmetrics : ∀ metric ∈ entry.1.metrics, rt.Apart metric elem) :
    rt.load elem (c.updateSource rt o accepted state entry).1 = rt.load elem state.1 := by
  have hconnected : rt.Apart entry.1.connected elem := hmetrics _ (by simp [Source.metrics])
  rw [updateSource]
  split
  · rw [Runtime.load_write_apart hcombined, Runtime.load_write_apart hconnected,
      load_age_source hmetrics]
  · rw [load_age_source hmetrics]

/-- The rounds change nothing but metrics. -/
theorem load_update_rounds {elem : Element} {entries : List (Source × Nat)}
    {state : SlateMemory × List Nat} (hcombined : rt.Apart c.combinedConnected elem)
    (hmetrics : ∀ entry ∈ entries, ∀ metric ∈ entry.1.metrics, rt.Apart metric elem) :
    rt.load elem (entries.foldl (c.updateSource rt o accepted) state).1 = rt.load elem state.1 := by
  induction entries generalizing state with
  | nil => rfl
  | cons entry entries ih =>
      obtain ⟨hfirst, hrest⟩ := List.forall_mem_cons.1 hmetrics
      rw [List.foldl_cons, ih hrest, load_update_source hcombined hfirst]

/-- The loop over the sources changes nothing but metrics. -/
theorem load_update_sources {elem : Element} (h : ∀ metric ∈ c.metrics, rt.Apart metric elem) :
    rt.load elem (c.updateSources rt o accepted slate).1 = rt.load elem slate := by
  obtain ⟨hcombined, hmetrics⟩ := List.forall_mem_cons.1 h
  rw [updateSources, load_update_rounds hcombined, Runtime.load_write_apart hcombined]
  intro entry hentry metric hmetric
  exact hmetrics metric
    (List.mem_flatMap.2 ⟨entry.1, List.fst_mem_of_mem_zipIdx hentry, hmetric⟩)

/-- Storing the outputs of a bin changes nothing else. -/
theorem load_for_batches {elem : Element} {value : ElementBatch → SlateMemory → Option Nat}
    {bin : ElementBin} (h : ∀ batch ∈ bin.batches c.stride, rt.Apart batch.out elem)
    (hstore : c.forBatches rt value slate bin = some slate') :
    rt.load elem slate' = rt.load elem slate := by
  obtain ⟨rounds, hrounds, hloop⟩ := Option.bind_eq_some_iff.1 hstore
  refine load_store_all (fun batch hbatch => ?_) hloop
  have hout : (batch.upTo c.stride).out = batch.out := batch.out_upTo (Nat.succ_pos _)
  rw [← hout]
  refine h _ ?_
  rw [ElementBin.rounds_eq hrounds]
  exact List.mem_map_of_mem hbatch

/-- Storing the outputs changes nothing else. -/
theorem load_store_outputs {elem : Element} {indices : List Nat}
    (h : ∀ batch ∈ c.batches, rt.Apart batch.out elem)
    (hstore : c.storeOutputs rt o slate indices = some slate') :
    rt.load elem slate' = rt.load elem slate := by
  have hloop {value : ElementBatch → SlateMemory → Option Nat}
      (hbins : c.bins.foldlM (c.forBatches rt value) slate = some slate') :
      rt.load elem slate' = rt.load elem slate := by
    refine foldlM_invariant (P := fun after => rt.load elem after = rt.load elem slate) hbins rfl ?_
    intro before after bin hbin hbefore hround
    rw [← hbefore]
    exact load_for_batches (fun batch hbatch => h batch (List.mem_flatMap.2 ⟨bin, hbin, hbatch⟩))
      hround
  unfold storeOutputs at hstore
  split at hstore
  next => exact hloop hstore
  next => exact hloop hstore
  next =>
    refine foldlM_invariant (P := fun after => rt.load elem after = rt.load elem slate) hstore rfl
      ?_
    intro before after bin hbin hbefore hround
    unfold binMedian at hround
    split_ifs at hround
    rw [← hbefore]
    exact load_for_batches (fun batch hbatch => h batch (List.mem_flatMap.2 ⟨bin, hbin, hbatch⟩))
      hround
  next =>
    cases hstore
    rfl

/-! ## The sources that are connected -/

/-- The rounds find some of the sources connected, in order. -/
theorem connected_rounds (c : SlateCombiner) (rt : Runtime) (o : CombinerOutside B D)
    (accepted : Int) (entries : List Source) (first : Nat) (state : SlateMemory × List Nat) :
    ∃ found, ((entries.zipIdx first).foldl (c.updateSource rt o accepted) state).2 =
        state.2 ++ found ∧ found.Sublist (List.range' first entries.length) := by
  induction entries generalizing first state with
  | nil => exact ⟨[], (List.append_nil _).symm, List.nil_sublist _⟩
  | cons source entries ih =>
      obtain ⟨found, hfound, hsublist⟩ :=
        ih (first + 1) (c.updateSource rt o accepted state (source, first))
      rw [List.zipIdx_cons, List.foldl_cons, hfound, List.length_cons, List.range'_succ]
      have hround : (c.updateSource rt o accepted state (source, first)).2 = state.2 ++ [first] ∨
          (c.updateSource rt o accepted state (source, first)).2 = state.2 := by
        unfold updateSource
        simp only
        split_ifs <;> simp
      rcases hround with hround | hround
      · rw [hround, List.append_assoc]
        exact ⟨first :: found, rfl, hsublist.cons_cons first⟩
      · rw [hround]
        exact ⟨found, rfl, hsublist.cons first⟩

/-- The connected sources are some of the sources, in their order. -/
theorem connected_sources_sublist (c : SlateCombiner) (rt : Runtime) (o : CombinerOutside B D)
    (cycle : Cycle) :
    (c.connectedSources rt o cycle).Sublist (List.range c.sources.length) := by
  obtain ⟨found, hfound, hsublist⟩ := connected_rounds c rt o (cycle.accepted o) c.sources 0
    (rt.write c.combinedConnected 0 cycle.slate, [])
  rw [connectedSources, updateSources, hfound, List.nil_append, List.range_eq_range']
  exact hsublist

end SlateCombiner

/-! ## The metrics of the sources -/

namespace Source

variable {source : Source}

/-- The value of the freshness element of a source. -/
def freshValue (rt : Runtime) (source : Source) (slate : SlateMemory) : Int :=
  signedInt 8 (rt.load source.fresh slate)

/-- Whether a cycle sees an update. -/
def updates (o : CombinerOutside B D) (rt : Runtime) (accepted : Int) (slate : SlateMemory)
    (source : Source) : Bool :=
  o.updated accepted (source.freshValue rt slate) (signedInt 8 (rt.load source.freshLast slate))

/-- The age after a cycle. -/
def nextAge (o : CombinerOutside B D) (rt : Runtime) (threshold : UInt8) (accepted : Int)
    (slate : SlateMemory) (source : Source) : Nat :=
  if source.updates o rt accepted slate then 0
  else if rt.load source.freshAge slate < threshold.toNat then rt.load source.freshAge slate + 1
  else rt.load source.freshAge slate

/-- What a cycle makes of the metrics of a source. -/
structure Updated (o : CombinerOutside B D) (rt : Runtime) (threshold : UInt8) (accepted : Int)
    (source : Source) (before after : SlateMemory) : Prop where
  freshLast : rt.load source.freshLast after =
    if source.updates o rt accepted before then rt.load source.fresh before
    else rt.load source.freshLast before
  freshAge : rt.load source.freshAge after = source.nextAge o rt threshold accepted before
  connected : rt.load source.connected after =
    if source.nextAge o rt threshold accepted before < threshold.toNat then 1 else 0

/-- The elements that a cycle reads of a source. -/
def elements (source : Source) : List Element := source.fresh :: source.metrics

/-- What depends on the elements of a source alone. -/
theorem updates_congr
    (h : ∀ elem ∈ source.elements, rt.load elem slate' = rt.load elem slate) :
    source.updates o rt accepted slate' = source.updates o rt accepted slate := by
  rw [updates, updates, freshValue, freshValue, h source.fresh (by simp [elements]),
    h source.freshLast (by simp [elements, metrics])]

/-- The age of a source depends on its own elements. -/
theorem next_age_congr {threshold : UInt8}
    (h : ∀ elem ∈ source.elements, rt.load elem slate' = rt.load elem slate) :
    source.nextAge o rt threshold accepted slate' =
      source.nextAge o rt threshold accepted slate := by
  rw [nextAge, nextAge, updates_congr h, h source.freshAge (by simp [elements, metrics])]

/-- The metrics depend on the elements of the source before the cycle and on themselves after it. -/
theorem Updated.congr {threshold : UInt8} {before before' after after' : SlateMemory}
    (h : source.Updated o rt threshold accepted before after)
    (hbefore : ∀ elem ∈ source.elements, rt.load elem before = rt.load elem before')
    (hafter : ∀ elem ∈ source.metrics, rt.load elem after' = rt.load elem after) :
    source.Updated o rt threshold accepted before' after' where
  freshLast := by
    rw [hafter source.freshLast (by simp [metrics]), h.freshLast, updates_congr hbefore,
      hbefore source.fresh (by simp [elements]),
      hbefore source.freshLast (by simp [elements, metrics])]
  freshAge := by
    rw [hafter source.freshAge (by simp [metrics]), h.freshAge, next_age_congr hbefore]
  connected := by
    rw [hafter source.connected (by simp [metrics]), h.connected, next_age_congr hbefore]

end Source

namespace SlateCombiner

variable {source : Source} {state : SlateMemory × List Nat}

/-- What the first part of a round does to the metrics of its source. -/
theorem age_source_spec (c : SlateCombiner) (o : CombinerOutside B D) (accepted : Int)
    (slate : SlateMemory) (hmetrics : source.metrics.Pairwise rt.Apart) :
    rt.load source.freshLast (c.ageSource rt o accepted source slate) =
        (if source.updates o rt accepted slate then rt.load source.fresh slate
          else rt.load source.freshLast slate) ∧
      rt.load source.freshAge (c.ageSource rt o accepted source slate) =
        source.nextAge o rt c.staleThreshold accepted slate ∧
      rt.load source.connected (c.ageSource rt o accepted source slate) = 0 := by
  obtain ⟨hlast, hrest⟩ := List.pairwise_cons.1 hmetrics
  obtain ⟨hage, -⟩ := List.pairwise_cons.1 hrest
  have hlastAge : rt.Apart source.freshLast source.freshAge := hlast _ (by simp)
  have hlastConnected : rt.Apart source.freshLast source.connected := hlast _ (by simp)
  have hageConnected : rt.Apart source.freshAge source.connected := hage _ (by simp)
  have hfresh : rt.load source.fresh slate % 256 ^ rt.size source.freshLast =
      rt.load source.fresh slate := Nat.mod_eq_of_lt (rt.load_lt source.fresh slate)
  have hbyte : c.staleThreshold.toNat < 256 := c.staleThreshold.toNat_lt
  have hsize : rt.size source.freshAge = 1 := rfl
  unfold ageSource Source.nextAge Source.updates Source.freshValue
  simp only [Runtime.load_write_apart hlastConnected.symm,
    Runtime.load_write_apart hageConnected.symm]
  split_ifs with hupdated hbelow
  · simp only [Runtime.load_write_self, Runtime.load_write_apart hlastAge.symm,
      Runtime.load_write_apart hageConnected, Runtime.load_write_apart hlastConnected, hfresh,
      Nat.zero_mod]
    exact ⟨trivial, trivial, trivial⟩
  · simp only [Runtime.load_write_self, Runtime.load_write_apart hlastAge.symm,
      Runtime.load_write_apart hageConnected, Runtime.load_write_apart hlastConnected.symm,
      Nat.zero_mod, hsize]
    exact ⟨trivial, Nat.mod_eq_of_lt (by omega), trivial⟩
  · simp only [Runtime.load_write_self, Runtime.load_write_apart hlastConnected.symm,
      Runtime.load_write_apart hageConnected.symm, Nat.zero_mod]
    exact ⟨trivial, trivial, trivial⟩

/-- What one round does to the metrics of its source, to the combined one and to the list of
connected sources. -/
theorem update_source_spec (o : CombinerOutside B D) (accepted : Int)
    (state : SlateMemory × List Nat) (i : Nat)
    (hmetrics : (c.combinedConnected :: source.metrics).Pairwise rt.Apart) :
    source.Updated o rt c.staleThreshold accepted state.1
        (c.updateSource rt o accepted state (source, i)).1 ∧
      rt.load c.combinedConnected (c.updateSource rt o accepted state (source, i)).1 =
        (if source.nextAge o rt c.staleThreshold accepted state.1 < c.staleThreshold.toNat then 1
          else rt.load c.combinedConnected state.1) ∧
      (c.updateSource rt o accepted state (source, i)).2 =
        state.2 ++ if source.nextAge o rt c.staleThreshold accepted state.1 <
          c.staleThreshold.toNat then [i] else [] := by
  obtain ⟨hcombined, hsource⟩ := List.pairwise_cons.1 hmetrics
  obtain ⟨hlast, hage, hconnected⟩ :=
    age_source_spec c o accepted state.1 hsource
  obtain ⟨hlastApart, hrest⟩ := List.pairwise_cons.1 hsource
  obtain ⟨hageApart, -⟩ := List.pairwise_cons.1 hrest
  have hlastConnected : rt.Apart source.connected source.freshLast :=
    (hlastApart source.connected (by simp)).symm
  have hageConnected : rt.Apart source.connected source.freshAge :=
    (hageApart source.connected (by simp)).symm
  have hcombinedLast : rt.Apart c.combinedConnected source.freshLast :=
    hcombined _ (by simp [Source.metrics])
  have hcombinedAge : rt.Apart c.combinedConnected source.freshAge :=
    hcombined _ (by simp [Source.metrics])
  have hcombinedConnected : rt.Apart c.combinedConnected source.connected :=
    hcombined _ (by simp [Source.metrics])
  rw [updateSource]
  simp only [hage]
  split
  next hbelow =>
    refine ⟨⟨?_, ?_, ?_⟩, ?_, rfl⟩
    · rw [Runtime.load_write_apart hcombinedLast, Runtime.load_write_apart hlastConnected, hlast]
    · rw [Runtime.load_write_apart hcombinedAge, Runtime.load_write_apart hageConnected, hage]
    · rw [Runtime.load_write_apart hcombinedConnected, Runtime.load_write_self, if_pos hbelow]
      rfl
    · rw [Runtime.load_write_self]
      rfl
  next hbelow =>
    dsimp only
    refine ⟨⟨hlast, hage, by rw [hconnected, if_neg hbelow]⟩, ?_, (List.append_nil _).symm⟩
    rw [load_age_source fun metric hmetric => (hcombined metric hmetric).symm]

/-- The metrics of some sources and the combined one are apart from each other and from the
freshness elements. -/
structure SourcesApart (c : SlateCombiner) (rt : Runtime) (sources : List Source) : Prop where
  pairwise : (c.combinedConnected :: sources.flatMap Source.metrics).Pairwise rt.Apart
  fresh : ∀ metric ∈ c.combinedConnected :: sources.flatMap Source.metrics,
    ∀ source ∈ sources, rt.Apart metric source.fresh

/-- The metrics of the sources are apart. -/
theorem MetricsApart.sources (h : c.MetricsApart rt) : c.SourcesApart rt c.sources :=
  ⟨h.1, fun metric hmetric => (h.2 metric hmetric).1⟩

variable {sources : List Source}

/-- The metrics of the first source are apart from each other and the combined flag. -/
theorem SourcesApart.first (h : c.SourcesApart rt (source :: sources)) :
    (c.combinedConnected :: source.metrics).Pairwise rt.Apart :=
  h.pairwise.sublist ((List.sublist_append_left _ _).cons_cons _)

/-- The rest of the sources are apart. -/
theorem SourcesApart.rest (h : c.SourcesApart rt (source :: sources)) :
    c.SourcesApart rt sources := by
  have hsublist : (c.combinedConnected :: sources.flatMap Source.metrics).Sublist
      (c.combinedConnected :: (source :: sources).flatMap Source.metrics) :=
    (List.sublist_append_right _ _).cons_cons _
  exact ⟨h.pairwise.sublist hsublist, fun metric hmetric other hother =>
    h.fresh metric (hsublist.subset hmetric) other (List.mem_cons_of_mem _ hother)⟩

/-- The metrics of a source and those of another are apart. -/
theorem SourcesApart.between (h : c.SourcesApart rt (source :: sources)) {metric elem : Element}
    (hmetric : metric ∈ source.metrics) (helem : elem ∈ sources.flatMap Source.metrics) :
    rt.Apart metric elem :=
  (List.pairwise_append.1 (List.pairwise_cons.1 h.pairwise).2).2.2 metric hmetric elem helem

/-- What a round does to its source does not touch the elements of the others. -/
theorem SourcesApart.others_kept (h : c.SourcesApart rt (source :: sources)) {other : Source}
    (hother : other ∈ sources) {i : Nat} {elem : Element} (helem : elem ∈ other.elements) :
    rt.load elem (c.updateSource rt o accepted state (source, i)).1 = rt.load elem state.1 := by
  have hall (metric : Element)
      (hmetric : metric ∈ c.combinedConnected :: source.metrics) : rt.Apart metric elem := by
    rcases List.mem_cons.1 helem with rfl | hin
    · refine h.fresh metric ?_ other (List.mem_cons_of_mem _ hother)
      exact ((List.sublist_append_left _ _).cons_cons _).subset hmetric
    · have hflat : elem ∈ sources.flatMap Source.metrics := List.mem_flatMap.2 ⟨other, hother, hin⟩
      rcases List.mem_cons.1 hmetric with rfl | hmetric
      · refine (List.pairwise_cons.1 h.pairwise).1 elem ?_
        exact List.mem_append_right _ hflat
      · exact h.between hmetric hflat
  exact load_update_source (hall _ List.mem_cons_self)
    fun metric hmetric => hall metric (List.mem_cons_of_mem _ hmetric)

/-- What the rounds do to the metrics. -/
theorem update_rounds_spec (o : CombinerOutside B D) (accepted : Int)
    (hapart : c.SourcesApart rt sources) (first : Nat) (state : SlateMemory × List Nat) :
    (∀ source ∈ sources, source.Updated o rt c.staleThreshold accepted state.1
        ((sources.zipIdx first).foldl (c.updateSource rt o accepted) state).1) ∧
      (rt.load c.combinedConnected
          ((sources.zipIdx first).foldl (c.updateSource rt o accepted) state).1 ≠ 0 ↔
        rt.load c.combinedConnected state.1 ≠ 0 ∨ ∃ source ∈ sources,
          source.nextAge o rt c.staleThreshold accepted state.1 < c.staleThreshold.toNat) := by
  induction sources generalizing first state with
  | nil => exact ⟨fun _ hsource => (by cases hsource), by simp⟩
  | cons source sources ih =>
      obtain ⟨hupdated, hcombined, -⟩ :=
        update_source_spec o accepted state first hapart.first
      obtain ⟨hothers, hany⟩ :=
        ih hapart.rest (first + 1) (c.updateSource rt o accepted state (source, first))
      rw [List.zipIdx_cons, List.foldl_cons]
      have hkept (other : Source) (hother : other ∈ sources) (elem : Element)
          (helem : elem ∈ other.elements) :
          rt.load elem (c.updateSource rt o accepted state (source, first)).1 =
            rt.load elem state.1 := hapart.others_kept hother helem
      have hages (other : Source) (hother : other ∈ sources) :
          other.nextAge o rt c.staleThreshold accepted
              (c.updateSource rt o accepted state (source, first)).1 =
            other.nextAge o rt c.staleThreshold accepted state.1 :=
        Source.next_age_congr (hkept other hother)
      refine ⟨List.forall_mem_cons.2 ⟨?_, fun other hother => ?_⟩, ?_⟩
      · -- the later rounds leave the metrics of the first source alone
        refine hupdated.congr (fun _ _ => rfl) fun elem helem => ?_
        refine load_update_rounds ?_ fun entry hentry metric hmetric => ?_
        · exact (List.pairwise_cons.1 hapart.first).1 elem helem
        · refine (hapart.between helem ?_).symm
          exact List.mem_flatMap.2 ⟨entry.1, List.fst_mem_of_mem_zipIdx hentry, hmetric⟩
      · exact (hothers other hother).congr (hkept other hother) fun _ _ => rfl
      · rw [hany, hcombined, List.exists_mem_cons_iff]
        have hrest : (∃ other ∈ sources, other.nextAge o rt c.staleThreshold accepted
              (c.updateSource rt o accepted state (source, first)).1 < c.staleThreshold.toNat) ↔
            ∃ other ∈ sources, other.nextAge o rt c.staleThreshold accepted state.1 <
              c.staleThreshold.toNat :=
          exists_congr fun other => and_congr_right fun hother => by rw [hages other hother]
        rw [hrest]
        split
        next hbelow => exact iff_of_true (.inl Nat.one_ne_zero) (.inr (.inl hbelow))
        next hbelow => rw [or_iff_right hbelow]

/-- The rounds find a source connected exactly if its age stays below the threshold. -/
theorem mem_update_rounds (o : CombinerOutside B D) (accepted : Int)
    (hapart : c.SourcesApart rt sources) (first : Nat) (state : SlateMemory × List Nat)
    (hstate : ∀ i ∈ state.2, i < first) {i : Nat} (hsource : sources[i]? = some source) :
    first + i ∈ ((sources.zipIdx first).foldl (c.updateSource rt o accepted) state).2 ↔
      source.nextAge o rt c.staleThreshold accepted state.1 < c.staleThreshold.toNat := by
  induction sources generalizing first state i with
  | nil => cases hsource
  | cons head sources ih =>
      obtain ⟨-, -, hfound⟩ := update_source_spec o accepted state first hapart.first
      rw [List.zipIdx_cons, List.foldl_cons]
      cases i with
      | zero =>
          cases hsource
          obtain ⟨later, hlater, hsublist⟩ := connected_rounds c rt o accepted sources (first + 1)
            (c.updateSource rt o accepted state (source, first))
          -- the rounds after it find sources with greater indices only
          have hnew : first ∉ later := fun hmem => by
            have hrange := List.mem_range'_1.1 (hsublist.subset hmem)
            omega
          have hold : first ∉ state.2 := fun hmem => absurd (hstate first hmem) (lt_irrefl first)
          show first ∈ _ ↔ _
          rw [hlater, hfound, List.mem_append, List.mem_append, or_iff_left hnew,
            or_iff_right hold]
          split
          next hbelow => exact iff_of_true List.mem_cons_self hbelow
          next hbelow => exact iff_of_false List.not_mem_nil hbelow
      | succ i =>
          have hstate' : ∀ j ∈ (c.updateSource rt o accepted state (head, first)).2,
              j < first + 1 := by
            intro j hj
            rw [hfound, List.mem_append] at hj
            rcases hj with hold | hnew
            · exact Nat.lt_succ_of_lt (hstate j hold)
            · split at hnew
              · rw [List.mem_singleton.1 hnew]
                exact Nat.lt_succ_self first
              · cases hnew
          rw [← Nat.add_assoc, Nat.add_right_comm, ih hapart.rest (first + 1) _ hstate' hsource,
            Source.next_age_congr fun elem helem =>
              hapart.others_kept (List.mem_of_getElem? hsource) helem]

/-- The combined flag is cleared without touching the elements of a source. -/
theorem kept_by_start (hapart : c.MetricsApart rt) (hsource : source ∈ c.sources) :
    ∀ elem ∈ source.elements,
      rt.load elem (rt.write c.combinedConnected 0 slate) = rt.load elem slate := by
  intro elem helem
  refine Runtime.load_write_apart ?_ 0
  rcases List.mem_cons.1 helem with rfl | hin
  · exact (hapart.2 _ List.mem_cons_self).1 source hsource
  · exact (List.pairwise_cons.1 hapart.1).1 elem (List.mem_flatMap.2 ⟨source, hsource, hin⟩)

/-- What a cycle makes of the metrics, before it stores the outputs. -/
theorem update_sources_spec (o : CombinerOutside B D) (accepted : Int) (slate : SlateMemory)
    (hapart : c.MetricsApart rt) :
    (∀ source ∈ c.sources, source.Updated o rt c.staleThreshold accepted slate
        (c.updateSources rt o accepted slate).1) ∧
      (rt.load c.combinedConnected (c.updateSources rt o accepted slate).1 ≠ 0 ↔
        ∃ source ∈ c.sources, rt.load source.connected
          (c.updateSources rt o accepted slate).1 ≠ 0) := by
  obtain ⟨hupdated, hany⟩ := update_rounds_spec o accepted hapart.sources 0
    (rt.write c.combinedConnected 0 slate, [])
  refine ⟨fun source hsource => (hupdated source hsource).congr (kept_by_start hapart hsource)
    fun _ _ => rfl, ?_⟩
  rw [updateSources, hany]
  simp only [Runtime.load_write_self, Nat.zero_mod, ne_eq, not_true_eq_false, false_or]
  refine exists_congr fun source => and_congr_right fun hsource => ?_
  rw [(hupdated source hsource).connected]
  simp

/-- After a cycle, the metrics report the sources that it has found connected. -/
theorem reported_iff_connected (hapart : c.MetricsApart rt) {cycle : Cycle}
    (h : c.cycle rt o cycle = some slate') {i : Nat} (hsource : c.sources[i]? = some source) :
    rt.load source.connected slate' ≠ 0 ↔ i ∈ c.connectedSources rt o cycle := by
  obtain ⟨indices, -, hstore⟩ := cycle_spec h
  have hmem := List.mem_of_getElem? hsource
  have hmetric : source.connected ∈ c.metrics :=
    List.mem_cons_of_mem _ (List.mem_flatMap.2 ⟨source, hmem, by simp [Source.metrics]⟩)
  rw [load_store_outputs (fun batch hbatch => ((hapart.2 _ hmetric).2 batch hbatch).symm) hstore,
    ((update_sources_spec o (cycle.accepted o) cycle.slate hapart).1 source hmem).connected]
  have hfound := mem_update_rounds o (cycle.accepted o) hapart.sources 0
    (rt.write c.combinedConnected 0 cycle.slate, []) (fun _ hj => by cases hj) hsource
  rw [Nat.zero_add, Source.next_age_congr (kept_by_start hapart hmem)] at hfound
  rw [connectedSources, updateSources, hfound]
  simp

end SlateCombiner

end Codon.Slate
