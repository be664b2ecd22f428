import Codon.Slate.Downselect

/-!
# Voting on each element

Unless it selects one source as a whole, a combiner votes on each element: the output is the
median of three connected sources, the greater of two, the value of one, and is left alone if
there is none. The values are compared by their places in the order of the type, so that the
two zeros of a floating-point type are the same; no value may be a NaN.
-/

namespace Codon.Slate

open Codon.Library

variable {B D : Type} {o : CombinerOutside B D} {rt : Runtime} {c c₂ : SlateCombiner}
  {slate slate' : SlateMemory} {cycle cycle₂ : Cycle}

/-- What `SlateCombiner` relies on of `median3`: it picks one of three values, the one that is
between the others. -/
structure MedianLaws (o : CombinerOutside B D) : Prop where
  mem : ∀ type x y z, o.median3 type x y z = x ∨ o.median3 type x y z = y ∨ o.median3 type x y z = z
  place : ∀ (type : SlateType) (x y z : Nat) (a b d : Int), type.place x = some a →
    type.place y = some b → type.place z = some d →
      type.place (o.median3 type x y z) = some (median a b d)

namespace SlateType

variable {type : SlateType} {x y : Nat} {a b : Int}

/-- The greater of two values is one of them. -/
theorem max_mem (type : SlateType) (x y : Nat) : type.max x y = x ∨ type.max x y = y := by
  unfold SlateType.max
  cases type.place x with
  | none => exact .inl rfl
  | some a =>
      cases type.place y with
      | none => exact .inl rfl
      | some b =>
          simp only
          split
          · exact .inr rfl
          · exact .inl rfl

/-- The place of the greater value is the greater place. -/
theorem place_max (hx : type.place x = some a) (hy : type.place y = some b) :
    type.place (type.max x y) = some (Max.max a b) := by
  rw [SlateType.max, hx, hy]
  simp only
  split
  next hlt => rw [hy, max_eq_right (le_of_lt hlt)]
  next hlt => rw [hx, max_eq_left (not_lt.1 hlt)]

end SlateType

namespace SlateCombiner

/-- The place of the value that a source has for an element. -/
def placeAt (rt : Runtime) (slate : SlateMemory) (batch : ElementBatch) (source : Nat) :
    Option Int :=
  batch.type.place (inputs rt batch slate source)

/-- The values of the connected sources, in order. -/
def votes (c : SlateCombiner) (rt : Runtime) (o : CombinerOutside B D) (cycle : Cycle)
    (batch : ElementBatch) : List Int :=
  (c.connectedSources rt o cycle).filterMap (placeAt rt cycle.slate batch)

/-- What storing the greater of two values leaves in the outputs. -/
theorem load_of_maximised (hc : c.WellFormed) (hseparate : c.Separate rt) {s t : Nat}
    (hs : s < c.numSources) (ht : t < c.numSources)
    (h : c.storeOutputs rt o slate [s + 1, t + 1] = some slate') {batch : ElementBatch}
    (hbatch : batch ∈ c.batches) :
    rt.load batch.out slate' =
      batch.type.max (inputs rt batch slate s) (inputs rt batch slate t) := by
  have hfirst : s + 1 < c.stride := Nat.succ_lt_succ hs
  have hsecond : t + 1 < c.stride := Nat.succ_lt_succ ht
  refine load_of_stored (maxValue rt (s + 1) (t + 1)) (fun batch f => batch.type.max (f s) (f t))
    hseparate ?_ ?_ ?_ h hbatch ?_
  · intro batch slate
    rw [maxValue, maxValue, batch.load_at_upTo hfirst, batch.load_at_upTo hsecond]
    rfl
  · intro batch hbatch slate
    rw [maxValue, hc.load_at hbatch hs, hc.load_at hbatch ht]
    rfl
  · intro batch f g hsame
    simp only [hsame s hs, hsame t ht]
  · rcases batch.type.max_mem (inputs rt batch slate s) (inputs rt batch slate t) with hmax | hmax
    · exact ⟨s, hmax⟩
    · exact ⟨t, hmax⟩

/-- What storing the medians of three values leaves in the outputs. -/
theorem load_of_medians (hmedian : MedianLaws o) (hc : c.WellFormed) (hseparate : c.Separate rt)
    (hthree : c.numSources = 3) (h : c.storeOutputs rt o slate [1, 2, 3] = some slate')
    {batch : ElementBatch} (hbatch : batch ∈ c.batches) :
    rt.load batch.out slate' = o.median3 batch.type (inputs rt batch slate 0)
      (inputs rt batch slate 1) (inputs rt batch slate 2) := by
  have hlt {source : Nat} (hsource : source < 3) : source < c.numSources := by omega
  have hloop : c.binMedian rt o = c.forBatches rt (medianValue rt o) := by
    funext slate bin
    rw [binMedian, if_neg (not_not.2 hthree)]
  have h : c.bins.foldlM (c.forBatches rt (medianValue rt o)) slate = some slate' := by
    rw [← hloop]
    exact h
  refine load_of_stored (medianValue rt o) (fun batch f => o.median3 batch.type (f 0) (f 1) (f 2))
    hseparate ?_ ?_ ?_ h hbatch ?_
  · intro batch slate
    have hstride : 3 < c.stride := Nat.succ_lt_succ (hlt (by decide))
    rw [medianValue, medianValue, batch.load_at_upTo (Nat.lt_trans (by decide) hstride),
      batch.load_at_upTo (Nat.lt_trans (by decide) hstride), batch.load_at_upTo hstride]
    rfl
  · intro batch hbatch slate
    rw [medianValue, hc.load_at hbatch (hlt (by decide)), hc.load_at hbatch (hlt (by decide)),
      hc.load_at hbatch (hlt (by decide))]
    rfl
  · intro batch f g hsame
    simp only [hsame 0 (hlt (by decide)), hsame 1 (hlt (by decide)), hsame 2 (hlt (by decide))]
  · rcases hmedian.mem batch.type (inputs rt batch slate 0) (inputs rt batch slate 1)
      (inputs rt batch slate 2) with hpick | hpick | hpick
    · exact ⟨0, hpick⟩
    · exact ⟨1, hpick⟩
    · exact ⟨2, hpick⟩

/-- The loop over the sources leaves the places of the inputs alone. -/
theorem InputsSpared.place_kept (h : c.InputsSpared rt) {batch : ElementBatch}
    (hbatch : batch ∈ c.batches) {source : Nat} (hsource : source < c.numSources) (accepted : Int) :
    placeAt rt (c.updateSources rt o accepted slate).1 batch source =
      placeAt rt slate batch source := by
  rw [placeAt, inputs, h.kept hbatch hsource, placeAt, inputs]

/-- The output of an element is what the connected sources vote for. -/
theorem place_of_voted (hmedian : MedianLaws o) (hc : c.WellFormed) (hseparate : c.Separate rt)
    (hspared : c.InputsSpared rt)
    (hplaces : ∀ batch ∈ c.batches, ∀ source ∈ c.connectedSources rt o cycle,
      (placeAt rt cycle.slate batch source).isSome = true)
    (hconnected : c.connectedSources rt o cycle ≠ [])
    (h : c.storeOutputs rt o (c.updateSources rt o (cycle.accepted o) cycle.slate).1
      ((c.connectedSources rt o cycle).map (· + 1)) = some slate')
    {batch : ElementBatch} (hbatch : batch ∈ c.batches) :
    batch.type.place (rt.load batch.out slate') = vote (c.votes rt o cycle batch) := by
  have hplace (source : Nat) (hsource : source ∈ c.connectedSources rt o cycle) :
      source < c.numSources ∧ ∃ a, placeAt rt cycle.slate batch source = some a ∧
        batch.type.place (inputs rt batch
          (c.updateSources rt o (cycle.accepted o) cycle.slate).1 source) = some a := by
    have hlt := connected_lt hc hsource
    obtain ⟨a, ha⟩ := Option.isSome_iff_exists.1 (hplaces batch hbatch source hsource)
    exact ⟨hlt, a, ha, (hspared.place_kept hbatch hlt _).trans ha⟩
  have hle : (c.connectedSources rt o cycle).length ≤ 3 := length_connected_sources_le hc
  rw [votes]
  -- `storeOutputs` has one loop for each number of sources that are connected
  rcases hsources : c.connectedSources rt o cycle with _ | ⟨s, _ | ⟨t, _ | ⟨u, _ | ⟨_, _⟩⟩⟩⟩
  · exact absurd hsources hconnected
  · rw [hsources] at h hplace
    obtain ⟨hs, a, ha, hload⟩ := hplace s (by simp)
    rw [load_of_copied hc hseparate hs h batch hbatch]
    rw [List.filterMap_cons_some ha, List.filterMap_nil]
    exact hload
  · rw [hsources] at h hplace
    obtain ⟨hs, a, ha, hloads⟩ := hplace s (by simp)
    obtain ⟨ht, b, hb, hloadt⟩ := hplace t (by simp)
    rw [load_of_maximised hc hseparate hs ht h hbatch, List.filterMap_cons_some ha,
      List.filterMap_cons_some hb, List.filterMap_nil]
    exact SlateType.place_max hloads hloadt
  · rw [hsources] at h hplace
    obtain ⟨rfl, rfl, rfl, hthree⟩ := connected_sources_eq hc hsources
    obtain ⟨-, a, ha, hload₀⟩ := hplace 0 (by simp)
    obtain ⟨-, b, hb, hload₁⟩ := hplace 1 (by simp)
    obtain ⟨-, d, hd, hload₂⟩ := hplace 2 (by simp)
    rw [load_of_medians hmedian hc hseparate hthree h hbatch, List.filterMap_cons_some ha,
      List.filterMap_cons_some hb, List.filterMap_cons_some hd, List.filterMap_nil]
    exact hmedian.place _ _ _ _ _ _ _ hload₀ hload₁ hload₂
  · rw [hsources] at hle
    simp only [List.length_cons] at hle
    omega

/-- The cycle of the second combiner finds the sources of that of the first, their values and
whether they are connected, in another order. -/
structure Permuted (o : CombinerOutside B D) (rt : Runtime) (c : SlateCombiner) (cycle : Cycle)
    (c₂ : SlateCombiner) (cycle₂ : Cycle) (σ : Nat → Nat) : Prop where
  perm : ((List.range c.numSources).map σ).Perm (List.range c.numSources)
  connected : ∀ source < c.numSources,
    source ∈ c₂.connectedSources rt o cycle₂ ↔ σ source ∈ c.connectedSources rt o cycle
  values : ∀ batch ∈ c.batches, ∀ source < c.numSources,
    placeAt rt cycle₂.slate batch source = placeAt rt cycle.slate batch (σ source)

/-- What is found of a list without duplicates, in its order, are those of it that are found. -/
theorem filter_of_sublist {found all : List Nat} (hnodup : all.Nodup) (h : found.Sublist all) :
    (all.filter fun x => x ∈ found) = found := by
  induction h with
  | slnil => rfl
  | cons a h ih =>
      obtain ⟨hnew, hnodup⟩ := List.nodup_cons.1 hnodup
      rw [List.filter_cons_of_neg (by simpa using fun hmem => hnew (h.subset hmem))]
      exact ih hnodup
  | @cons_cons found all a h ih =>
      obtain ⟨hnew, hnodup⟩ := List.nodup_cons.1 hnodup
      have hrest : (all.filter fun x => x ∈ a :: found) = all.filter fun x => x ∈ found := by
        refine List.filter_congr fun x hx => ?_
        have hne : x ≠ a := fun heq => hnew (heq ▸ hx)
        simp [hne]
      rw [List.filter_cons_of_pos (by simp), hrest, ih hnodup]

/-- The connected sources are those of all sources that are connected. -/
theorem filter_connected (hc : c.WellFormed) :
    ((List.range c.numSources).filter fun source => source ∈ c.connectedSources rt o cycle) =
      c.connectedSources rt o cycle := by
  have hsublist := connected_sources_sublist c rt o cycle
  rw [hc.length_sources] at hsublist
  exact filter_of_sublist List.nodup_range hsublist

/-- The votes of a batch are those of the connected sources. -/
theorem votes_eq (hc : c.WellFormed) (batch : ElementBatch) :
    c.votes rt o cycle batch = (List.range c.numSources).filterMap fun source =>
      if source ∈ c.connectedSources rt o cycle then placeAt rt cycle.slate batch source
      else none := by
  rw [votes, ← filter_connected hc, List.filterMap_filter]
  simp only [filter_connected hc, decide_eq_true_eq]

/-- The votes are the same in another order. -/
theorem votes_perm {σ : Nat → Nat} (hc : c.WellFormed) (hc₂ : c₂.WellFormed)
    (hsources : c₂.numSources = c.numSources) (h : Permuted o rt c cycle c₂ cycle₂ σ)
    {batch : ElementBatch} (hbatch : batch ∈ c.batches) :
    (c₂.votes rt o cycle₂ batch).Perm (c.votes rt o cycle batch) := by
  rw [votes_eq hc, votes_eq hc₂, hsources]
  have hsame : ((List.range c.numSources).filterMap fun source =>
      if source ∈ c₂.connectedSources rt o cycle₂ then placeAt rt cycle₂.slate batch source
      else none) =
        ((List.range c.numSources).map σ).filterMap fun source =>
          if source ∈ c.connectedSources rt o cycle then placeAt rt cycle.slate batch source
          else none := by
    rw [List.filterMap_map]
    refine List.filterMap_congr fun source hsource => ?_
    rw [List.mem_range] at hsource
    simp only [Function.comp_apply, h.connected source hsource,
      h.values batch hbatch source hsource]
  rw [hsame]
  exact h.perm.filterMap _

/-- Either both cycles find a connected source or neither does. -/
theorem Permuted.none_connected_iff {σ : Nat → Nat} (h : Permuted o rt c cycle c₂ cycle₂ σ)
    (hc : c.WellFormed) (hc₂ : c₂.WellFormed) (hsources : c₂.numSources = c.numSources) :
    c.connectedSources rt o cycle = [] ↔ c₂.connectedSources rt o cycle₂ = [] := by
  constructor
  · intro hnone
    refine List.eq_nil_iff_forall_not_mem.2 fun source hsource => ?_
    have hlt : source < c.numSources := hsources ▸ connected_lt hc₂ hsource
    have hfirst := (h.connected source hlt).1 hsource
    rw [hnone] at hfirst
    cases hfirst
  · intro hnone
    refine List.eq_nil_iff_forall_not_mem.2 fun source hsource => ?_
    -- every source of the first is the image of one of the second
    have hmem := h.perm.mem_iff.2 (List.mem_range.2 (connected_lt hc hsource))
    obtain ⟨source₂, hsource₂, rfl⟩ := List.mem_map.1 hmem
    have hsecond := (h.connected source₂ (List.mem_range.1 hsource₂)).2 hsource
    rw [hnone] at hsecond
    cases hsecond

/-- One cycle: the outputs are left alone, or are what the connected sources vote for. -/
theorem cycle_voted (hmedian : MedianLaws o) (hc : c.WellFormed) (hmode : c.downselect = false)
    (hseparate : c.Separate rt) (hinputs : c.InputsSpared rt) (houtputs : c.OutputsSpared rt)
    (h : c.cycle rt o cycle = some slate')
    (hplaces : ∀ batch ∈ c.batches, ∀ source ∈ c.connectedSources rt o cycle,
      (placeAt rt cycle.slate batch source).isSome = true)
    {batch : ElementBatch} (hbatch : batch ∈ c.batches) :
    (c.connectedSources rt o cycle = [] →
        rt.load batch.out slate' = rt.load batch.out cycle.slate) ∧
      (c.connectedSources rt o cycle ≠ [] →
        batch.type.place (rt.load batch.out slate') = vote (c.votes rt o cycle batch)) := by
  obtain ⟨used, hused, hstore⟩ := cycle_spec h
  rw [usedIndices, hmode, if_neg Bool.false_ne_true, Option.some.injEq] at hused
  subst hused
  constructor
  · intro hnone
    rw [hnone] at hstore
    cases hstore
    exact load_update_sources fun metric hmetric => houtputs metric hmetric batch hbatch
  · intro hsome
    exact place_of_voted hmedian hc hseparate hinputs hplaces hsome hstore hbatch

/-- The vote of three sources lies between the values of any two of them. -/
theorem vote_between (hc : c.WellFormed) {batch : ElementBatch}
    (hthree : (c.connectedSources rt o cycle).length = 3)
    (hplaces : ∀ source ∈ c.connectedSources rt o cycle,
      (placeAt rt cycle.slate batch source).isSome = true)
    {s t : Nat} (hs : s < 3) (ht : t < 3) (hne : s ≠ t) :
    ∃ a b v, placeAt rt cycle.slate batch s = some a ∧ placeAt rt cycle.slate batch t = some b ∧
      vote (c.votes rt o cycle batch) = some v ∧ min a b ≤ v ∧ v ≤ max a b := by
  obtain ⟨x, y, z, hsources⟩ := List.length_eq_three.1 hthree
  obtain ⟨rfl, rfl, rfl, -⟩ := connected_sources_eq hc hsources
  have hplace (source : Nat) (hmem : source ∈ c.connectedSources rt o cycle) :
      ∃ a, placeAt rt cycle.slate batch source = some a :=
    Option.isSome_iff_exists.1 (hplaces source hmem)
  obtain ⟨a, ha⟩ := hplace 0 (by simp [hsources])
  obtain ⟨b, hb⟩ := hplace 1 (by simp [hsources])
  obtain ⟨d, hd⟩ := hplace 2 (by simp [hsources])
  have hvote : vote (c.votes rt o cycle batch) = some (median a b d) := by
    rw [votes, hsources, List.filterMap_cons_some ha, List.filterMap_cons_some hb,
      List.filterMap_cons_some hd, List.filterMap_nil]
    rfl
  have hfirst := median_between a b d
  have houter := median_between_outer a b d
  have hlast := median_between_last a b d
  have hswap {x y v : Int} (h : min x y ≤ v ∧ v ≤ max x y) : min y x ≤ v ∧ v ≤ max y x := by
    rwa [min_comm, max_comm]
  match s, t with
  | 0, 1 => exact ⟨a, b, _, ha, hb, hvote, hfirst⟩
  | 0, 2 => exact ⟨a, d, _, ha, hd, hvote, houter⟩
  | 1, 0 => exact ⟨b, a, _, hb, ha, hvote, hswap hfirst⟩
  | 1, 2 => exact ⟨b, d, _, hb, hd, hvote, hlast⟩
  | 2, 0 => exact ⟨d, a, _, hd, ha, hvote, hswap houter⟩
  | 2, 1 => exact ⟨d, b, _, hd, hb, hvote, hswap hlast⟩
  | 0, 0 | 1, 1 | 2, 2 => exact absurd rfl hne

/-- The outputs do not depend on the order of the sources. -/
theorem permuted_outputs_agree (hmedian : MedianLaws o) (hc : c.WellFormed)
    (hmode : c.downselect = false) (hseparate : c.Separate rt) (hinputs : c.InputsSpared rt)
    (houtputs : c.OutputsSpared rt) (h : c.cycle rt o cycle = some slate')
    (hplaces : ∀ batch ∈ c.batches, ∀ source ∈ c.connectedSources rt o cycle,
      (placeAt rt cycle.slate batch source).isSome = true)
    {slate₂' : SlateMemory} {σ : Nat → Nat} (hc₂ : c₂.WellFormed) (hmode₂ : c₂.downselect = false)
    (hbins : c₂.bins = c.bins) (hnum : c₂.numSources = c.numSources)
    (hinputs₂ : c₂.InputsSpared rt) (houtputs₂ : c₂.OutputsSpared rt)
    (h₂ : c₂.cycle rt o cycle₂ = some slate₂') (hperm : Permuted o rt c cycle c₂ cycle₂ σ)
    {batch : ElementBatch} (hbatch : batch ∈ c.batches)
    (hout : rt.load batch.out cycle₂.slate = rt.load batch.out cycle.slate) :
    batch.type.place (rt.load batch.out slate₂') = batch.type.place (rt.load batch.out slate') := by
  have hbatches : c₂.batches = c.batches := by
    rw [batches, stride, hbins, hnum]
    rfl
  have hseparate₂ : c₂.Separate rt := by
    rw [Separate, hbatches, hnum]
    exact hseparate
  have hplaces₂ : ∀ batch ∈ c₂.batches, ∀ source ∈ c₂.connectedSources rt o cycle₂,
      (placeAt rt cycle₂.slate batch source).isSome = true := by
    intro batch hbatch source hsource
    have hlt : source < c.numSources := hnum ▸ connected_lt hc₂ hsource
    rw [hbatches] at hbatch
    rw [hperm.values batch hbatch source hlt]
    exact hplaces batch hbatch (σ source) ((hperm.connected source hlt).1 hsource)
  obtain ⟨hunchanged, hvoted⟩ :=
    cycle_voted hmedian hc hmode hseparate hinputs houtputs h hplaces hbatch
  obtain ⟨hunchanged₂, hvoted₂⟩ := cycle_voted hmedian hc₂ hmode₂ hseparate₂ hinputs₂ houtputs₂ h₂
    hplaces₂ (hbatches ▸ hbatch)
  have hnone := hperm.none_connected_iff hc hc₂ hnum
  by_cases hempty : c.connectedSources rt o cycle = []
  · rw [hunchanged hempty, hunchanged₂ (hnone.1 hempty), hout]
  · rw [hvoted hempty, hvoted₂ (mt hnone.2 hempty)]
    exact vote_perm (votes_perm hc hc₂ hnum hperm hbatch)

/-- In the other mode, each output is the vote of the connected sources: the median of three, which
lies between any two of them, the greater of two, or the value of one. It is left alone if there is
none, and does not depend on the order of the sources. -/
theorem median_of_connected (hmedian : MedianLaws o) (hinit : c.Initialised o rt)
    (hmode : c.downselect = false) (hseparate : c.Separate rt) (hinputs : c.InputsSpared rt)
    (houtputs : c.OutputsSpared rt) (h : c.cycle rt o cycle = some slate')
    (hplaces : ∀ batch ∈ c.batches, ∀ source ∈ c.connectedSources rt o cycle,
      (placeAt rt cycle.slate batch source).isSome = true) :
    (∀ batch ∈ c.batches,
      (c.connectedSources rt o cycle = [] →
        rt.load batch.out slate' = rt.load batch.out cycle.slate) ∧
      (c.connectedSources rt o cycle ≠ [] →
        batch.type.place (rt.load batch.out slate') = vote (c.votes rt o cycle batch)) ∧
      ((c.connectedSources rt o cycle).length = 3 → ∀ s < 3, ∀ t < 3, s ≠ t → ∃ a b v,
        placeAt rt cycle.slate batch s = some a ∧ placeAt rt cycle.slate batch t = some b ∧
          batch.type.place (rt.load batch.out slate') = some v ∧ min a b ≤ v ∧ v ≤ max a b)) ∧
    ∀ (c₂ : SlateCombiner) (cycle₂ : Cycle) (slate₂' : SlateMemory) (σ : Nat → Nat),
      c₂.Initialised o rt → c₂.downselect = false → c₂.bins = c.bins →
        c₂.numSources = c.numSources → c₂.InputsSpared rt → c₂.OutputsSpared rt →
          c₂.cycle rt o cycle₂ = some slate₂' → Permuted o rt c cycle c₂ cycle₂ σ →
            ∀ batch ∈ c.batches,
              rt.load batch.out cycle₂.slate = rt.load batch.out cycle.slate →
                batch.type.place (rt.load batch.out slate₂') =
                  batch.type.place (rt.load batch.out slate') := by
  have hc := hinit.well_formed
  refine ⟨fun batch hbatch => ?_, ?_⟩
  · obtain ⟨hunchanged, hvoted⟩ :=
      cycle_voted hmedian hc hmode hseparate hinputs houtputs h hplaces hbatch
    refine ⟨hunchanged, hvoted, fun hthree s hs t ht hne => ?_⟩
    obtain ⟨a, b, v, ha, hb, hv, hbetween⟩ :=
      vote_between hc hthree (hplaces batch hbatch) hs ht hne
    refine ⟨a, b, v, ha, hb, ?_, hbetween⟩
    rw [hvoted (List.ne_nil_of_length_pos (by omega)), hv]
  · intro c₂ cycle₂ slate₂' σ hinit₂ hmode₂ hbins hnum hinputs₂ houtputs₂ h₂ hperm batch hbatch hout
    exact permuted_outputs_agree hmedian hc hmode hseparate hinputs houtputs h hplaces
      hinit₂.well_formed hmode₂ hbins hnum hinputs₂ houtputs₂ h₂ hperm hbatch hout

end SlateCombiner

namespace Sample

/-- The sample's comparisons order the places. -/
theorem median_laws : MedianLaws combinerOutside where
  mem type x y z := by
    simp only [combinerOutside]
    split
    · split_ifs
      · exact .inl rfl
      · exact .inr (.inl rfl)
      · exact .inr (.inr rfl)
    · exact .inl rfl
  place type x y z a b d hx hy hz := by
    simp only [combinerOutside, hx, hy, hz]
    split_ifs with hfirst hsecond
    · rw [hx, hfirst]
    · rw [hy, hsecond]
    · rw [hz, ((median_mem a b d).resolve_left hfirst).resolve_left hsecond]

/-- The theorem where two sources agree against a third one. -/
theorem two_agree_voted :
    (votingCombiner false).batches.length = 2 ∧
      ∀ batch ∈ (votingCombiner false).batches,
        batch.type.place
            (runtime.load batch.out (slateAfter (votingCombiner false) .combine twoAgree)) =
          vote ((votingCombiner false).votes runtime combinerOutside ⟨.combine, twoAgree⟩
            batch) := by
  have hcycle := cycle_eq (votingCombiner false) .combine twoAgree (by decide +kernel)
  have hplaces : ∀ batch ∈ (votingCombiner false).batches,
      ∀ source ∈ (votingCombiner false).connectedSources runtime combinerOutside
        ⟨.combine, twoAgree⟩,
        (SlateCombiner.placeAt runtime twoAgree batch source).isSome = true := by
    decide +kernel
  refine ⟨by decide, fun batch hbatch => ?_⟩
  exact ((SlateCombiner.median_of_connected median_laws (voting_combiner_initialised false) rfl
    (by decide +kernel) (by decide +kernel) (by decide +kernel) hcycle hplaces).1 batch hbatch).2.1
      (by decide +kernel)

/-- With nested slates the outputs are both 5, while the values of the one source were 5 and 0. With
the flag as an input the output is 1, while the value was 0. With a source that a failed `init` has
left the output is that of a source that is not connected. -/
theorem outputs_not_voted :
    ((nestedCombiner false).Initialised combinerOutside runtime ∧
      (nestedCombiner false).cycle runtime combinerOutside ⟨.combine, nestedSlate⟩ =
        some (slateAfter (nestedCombiner false) .combine nestedSlate) ∧
      (nestedCombiner false).connectedSources runtime combinerOutside ⟨.combine, nestedSlate⟩ =
        [0] ∧
      ¬∀ batch ∈ (nestedCombiner false).batches,
        batch.type.place
            (runtime.load batch.out (slateAfter (nestedCombiner false) .combine nestedSlate)) =
          vote ((nestedCombiner false).votes runtime combinerOutside ⟨.combine, nestedSlate⟩
            batch)) ∧
    ((flagInputCombiner false).Initialised combinerOutside runtime ∧
      (flagInputCombiner false).cycle runtime combinerOutside ⟨.combine, flagInputSlate⟩ =
        some (slateAfter (flagInputCombiner false) .combine flagInputSlate) ∧
      (flagInputCombiner false).connectedSources runtime combinerOutside
        ⟨.combine, flagInputSlate⟩ = [0] ∧
      ¬∀ batch ∈ (flagInputCombiner false).batches,
        batch.type.place
            (runtime.load batch.out
              (slateAfter (flagInputCombiner false) .combine flagInputSlate)) =
          vote ((flagInputCombiner false).votes runtime combinerOutside ⟨.combine, flagInputSlate⟩
            batch)) ∧
    (combinerOutside.init runtime (combinerArgs ["a", "b"] "out" false []) .new twoRates =
        .error (some (ratesLeft, twoRatesLeft)) ∧
      (combinerOutside.init runtime
        { combinerArgs ["c"] "out" false [["rate", "int32"]] with combinerName := "again" }
        ratesLeft twoRatesLeft).toOption.map Prod.fst = some (againRates false) ∧
      (againRates false).cycle runtime combinerOutside ⟨.combine, onlyFirst⟩ =
        some (slateAfter (againRates false) .combine onlyFirst) ∧
      (againRates false).connectedSources runtime combinerOutside ⟨.combine, onlyFirst⟩ = [0] ∧
      runtime.load ⟨112, .int32⟩ (slateAfter (againRates false) .combine onlyFirst) =
        runtime.load ⟨48, .int32⟩ onlyFirst ∧
      runtime.load ⟨48, .int32⟩ onlyFirst ≠ runtime.load ⟨16, .int32⟩ onlyFirst) :=
  ⟨⟨nested_combiner_initialised false, cycle_eq _ _ _ (by decide +kernel), by decide +kernel,
      by decide +kernel⟩,
    ⟨flag_input_initialised false, cycle_eq _ _ _ (by decide +kernel), by decide +kernel,
      by decide +kernel⟩,
    left_source_used false⟩

end Sample

end Codon.Slate
