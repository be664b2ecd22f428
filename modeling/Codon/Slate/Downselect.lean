import Codon.Slate.Staleness

/-!
# Selecting one source as a whole

In downselect mode the outputs are copied from one connected source, and from one that
agrees with another connected source if there is such a pair. The outputs come to equal the
inputs that were found as long as no output has bytes in common with what is processed
after it (`Separate`), and no metric has with an input (`InputsSpared`).
-/

namespace Codon.Slate

open Codon.Library

variable {B D : Type} {o : CombinerOutside B D} {rt : Runtime} {c : SlateCombiner}
  {slate slate' : SlateMemory} {cycle : Cycle}

namespace SlateType

variable {type : SlateType} {x y z : Nat}

/-- Values are equal exactly if they have a place and it is the same. -/
theorem value_eq_iff :
    type.valueEq x y = true ↔ ∃ a, type.place x = some a ∧ type.place y = some a := by
  unfold valueEq
  cases type.place x <;> cases type.place y <;> simp [eq_comm]

/-- Values that are equal are so both ways. -/
theorem value_eq_symm (h : type.valueEq x y = true) : type.valueEq y x = true := by
  obtain ⟨a, hx, hy⟩ := value_eq_iff.1 h
  exact value_eq_iff.2 ⟨a, hy, hx⟩

/-- Values that are equal to a third one are equal. -/
theorem value_eq_trans (h : type.valueEq x y = true) (h' : type.valueEq y z = true) :
    type.valueEq x z = true := by
  obtain ⟨a, hx, hy⟩ := value_eq_iff.1 h
  obtain ⟨b, hy', hz⟩ := value_eq_iff.1 h'
  rw [hy, Option.some.injEq] at hy'
  exact value_eq_iff.2 ⟨a, hx, hy' ▸ hz⟩

end SlateType

namespace SlateCombiner

/-- A connected source is one of the sources. -/
theorem connected_lt (hc : c.WellFormed) {source : Nat}
    (h : source ∈ c.connectedSources rt o cycle) : source < c.numSources := by
  rw [← hc.length_sources, ← List.mem_range]
  exact (connected_sources_sublist c rt o cycle).subset h

/-- No more than three sources are connected. -/
theorem length_connected_sources_le (hc : c.WellFormed) :
    (c.connectedSources rt o cycle).length ≤ 3 := by
  refine (connected_sources_sublist c rt o cycle).length_le.trans ?_
  rw [List.length_range, hc.length_sources]
  exact hc.numSources_le

/-- If all three sources are connected, they are the first, the second and the third. -/
theorem connected_sources_eq (hc : c.WellFormed) {a b d : Nat}
    (h : c.connectedSources rt o cycle = [a, b, d]) :
    a = 0 ∧ b = 1 ∧ d = 2 ∧ c.numSources = 3 := by
  have hsublist := connected_sources_sublist c rt o cycle
  have hle := hsublist.length_le
  rw [h, List.length_range, hc.length_sources] at hle
  have hthree : c.numSources = 3 := Nat.le_antisymm hc.numSources_le hle
  rw [hc.length_sources, hthree, h] at hsublist
  have heq := hsublist.eq_of_length rfl
  simp only [List.range, List.range.loop, List.cons.injEq, and_true] at heq
  exact ⟨heq.1, heq.2.1, heq.2.2, hthree⟩

/-- The loop over the sources leaves the inputs alone. -/
theorem InputsSpared.kept (h : c.InputsSpared rt) {batch : ElementBatch}
    (hbatch : batch ∈ c.batches) {source : Nat} (hsource : source < c.numSources) (accepted : Int) :
    rt.load (batch.input source) (c.updateSources rt o accepted slate).1 =
      rt.load (batch.input source) slate :=
  load_update_sources fun metric hmetric => h metric hmetric batch hbatch source hsource

/-- All values of two sources are the same. -/
def Agree (c : SlateCombiner) (rt : Runtime) (slate : SlateMemory) (source source' : Nat) : Prop :=
  ∀ batch ∈ c.batches,
    batch.type.valueEq (rt.load (batch.input source) slate) (rt.load (batch.input source') slate) =
      true

/-- Sources that agree do so both ways. -/
theorem Agree.symm {source source' : Nat} (h : c.Agree rt slate source source') :
    c.Agree rt slate source' source :=
  fun batch hbatch => SlateType.value_eq_symm (h batch hbatch)

/-- Sources that agree with a third one agree. -/
theorem Agree.trans {source source' source'' : Nat} (h : c.Agree rt slate source source')
    (h' : c.Agree rt slate source' source'') : c.Agree rt slate source source'' :=
  fun batch hbatch => SlateType.value_eq_trans (h batch hbatch) (h' batch hbatch)

/-- Two sources agree before and after the loop over the sources. -/
theorem InputsSpared.agree_iff (h : c.InputsSpared rt) {source source' : Nat}
    (hsource : source < c.numSources) (hsource' : source' < c.numSources) (accepted : Int) :
    c.Agree rt (c.updateSources rt o accepted slate).1 source source' ↔
      c.Agree rt slate source source' := by
  refine forall₂_congr fun batch hbatch => ?_
  rw [h.kept hbatch hsource, h.kept hbatch hsource']

/-- The result of comparing two sources over some batches. -/
theorem compare_batches {source source' : Nat} {batches : List ElementBatch} {result equal : Bool}
    (hlength : ∀ batch ∈ batches,
      source + 1 < batch.ids.length ∧ source' + 1 < batch.ids.length)
    (h : batches.foldlM (eqRound rt (source + 1) (source' + 1) slate) result = some equal) :
    equal = true ↔ result = true ∧ ∀ batch ∈ batches, batch.type.valueEq
      (rt.load (batch.input source) slate) (rt.load (batch.input source') slate) = true := by
  induction batches generalizing result with
  | nil =>
      cases h
      simp
  | cons batch batches ih =>
      obtain ⟨hhead, htail⟩ := List.forall_mem_cons.1 hlength
      rw [List.foldlM_cons, eqRound, Runtime.load_at_eq hhead.1, Runtime.load_at_eq hhead.2] at h
      rw [ih htail h, List.forall_mem_cons, Bool.and_eq_true, and_assoc]

/-- The result of `bin_eq` over all bins. -/
theorem bins_eq_iff (hc : c.WellFormed) {source source' : Nat} (hsource : source < c.numSources)
    (hsource' : source' < c.numSources) {equal : Bool}
    (h : c.bins.foldlM (c.binEq rt (source + 1) (source' + 1) slate) true = some equal) :
    equal = true ↔ c.Agree rt slate source source' := by
  have hfirst : source + 1 < c.stride := Nat.succ_lt_succ hsource
  have hsecond : source' + 1 < c.stride := Nat.succ_lt_succ hsource'
  have hround (result : Bool) (batch : ElementBatch) :
      eqRound rt (source + 1) (source' + 1) slate result (batch.upTo c.stride) =
        eqRound rt (source + 1) (source' + 1) slate result batch := by
    rw [eqRound, eqRound, batch.load_at_upTo hfirst, batch.load_at_upTo hsecond]
    rfl
  have hlength (batch : ElementBatch) (hbatch : batch ∈ c.batches) :
      source + 1 < batch.ids.length ∧ source' + 1 < batch.ids.length := by
    rw [hc.length_ids hbatch, stride]
    omega
  rw [compare_batches hlength (foldlM_bins hround h)]
  exact and_iff_right rfl

/-- What copying from one source leaves in the outputs. -/
theorem load_of_copied (hc : c.WellFormed) (hseparate : c.Separate rt) {source : Nat}
    (hsource : source < c.numSources)
    (h : c.bins.foldlM (c.binCopy rt (source + 1)) slate = some slate') :
    ∀ batch ∈ c.batches, rt.load batch.out slate' = rt.load (batch.input source) slate := by
  intro batch hbatch
  refine load_of_stored (copyValue rt (source + 1)) (fun _ f => f source) hseparate
    (fun batch slate => batch.load_at_upTo (Nat.succ_lt_succ hsource))
    (fun batch hbatch slate => hc.load_at hbatch hsource slate) (fun _ f g hsame => hsame _ hsource)
    h hbatch ⟨source, rfl⟩

/-- One of the connected sources, which stands for any two that agree: it is one of them, or it
agrees with them. -/
structure Elected (c : SlateCombiner) (rt : Runtime) (slate : SlateMemory) (found : List Nat)
    (source : Nat) : Prop where
  connected : source ∈ found
  agrees : ∀ source₁ ∈ found, ∀ source₂ ∈ found, source₁ ≠ source₂ →
    c.Agree rt slate source₁ source₂ →
      source = source₁ ∨ source = source₂ ∨ c.Agree rt slate source source₁

/-- Of at most two connected sources the first is elected. -/
theorem elected_of_one (a : Nat) : c.Elected rt slate [a] a := by
  refine ⟨List.mem_cons_self, fun source₁ h₁ _ _ _ _ => ?_⟩
  exact .inl (List.mem_singleton.1 h₁).symm

/-- Of two sources the first is elected. -/
theorem elected_of_two (a b : Nat) : c.Elected rt slate [a, b] a := by
  refine ⟨List.mem_cons_self, fun source₁ h₁ source₂ h₂ hne _ => ?_⟩
  simp only [List.mem_cons, List.not_mem_nil, or_false] at h₁ h₂
  omega

/-- If the second and the third source agree, the second is elected. -/
theorem elected_of_agree (hlast : c.Agree rt slate 1 2) : c.Elected rt slate [0, 1, 2] 1 := by
  refine ⟨by simp, fun source₁ h₁ source₂ h₂ hne hsame => ?_⟩
  simp only [List.mem_cons, List.not_mem_nil, or_false] at h₁ h₂
  rcases h₁ with rfl | rfl | rfl
  · rcases h₂ with rfl | rfl | rfl
    · exact absurd rfl hne
    · exact .inr (.inl rfl)
    · exact .inr (.inr (hlast.trans hsame.symm))
  · exact .inl rfl
  · exact .inr (.inr hlast)

/-- If the second and the third source differ, any two that agree include the first. -/
theorem elected_of_not_agree (hlast : ¬c.Agree rt slate 1 2) :
    c.Elected rt slate [0, 1, 2] 0 := by
  refine ⟨by simp, fun source₁ h₁ source₂ h₂ hne hsame => ?_⟩
  simp only [List.mem_cons, List.not_mem_nil, or_false] at h₁ h₂
  rcases h₁ with rfl | rfl | rfl
  · exact .inl rfl
  · rcases h₂ with rfl | rfl | rfl
    · exact .inr (.inl rfl)
    · exact absurd rfl hne
    · exact absurd hsame hlast
  · rcases h₂ with rfl | rfl | rfl
    · exact .inr (.inl rfl)
    · exact absurd hsame.symm hlast
    · exact absurd rfl hne

/-- The source that is copied from is elected. -/
theorem downselected_source (hc : c.WellFormed) {indices : List Nat}
    (hconnected : c.connectedSources rt o cycle ≠ [])
    (h : c.downselected rt slate ((c.connectedSources rt o cycle).map (· + 1)) = some indices) :
    ∃ source, indices = [source + 1] ∧
      c.Elected rt slate (c.connectedSources rt o cycle) source := by
  have hle : (c.connectedSources rt o cycle).length ≤ 3 := length_connected_sources_le hc
  -- the number of connected sources decides what is compared
  rcases hsources : c.connectedSources rt o cycle with _ | ⟨a, _ | ⟨b, _ | ⟨d, _ | ⟨_, _⟩⟩⟩⟩
  · exact absurd hsources hconnected
  · rw [hsources] at h
    cases h
    exact ⟨a, rfl, elected_of_one a⟩
  · rw [hsources] at h
    cases h
    exact ⟨a, rfl, elected_of_two a b⟩
  · rw [hsources] at h
    obtain ⟨rfl, rfl, rfl, hthree⟩ := connected_sources_eq hc hsources
    obtain ⟨equal, hequal, h⟩ := Option.bind_eq_some_iff.1 h
    have hagree : equal = true ↔ c.Agree rt slate 1 2 :=
      bins_eq_iff hc (by omega) (by omega) hequal
    cases h
    cases equal with
    | true => exact ⟨1, rfl, elected_of_agree (hagree.1 rfl)⟩
    | false =>
        have hdiffer : ¬c.Agree rt slate 1 2 := fun h => Bool.false_ne_true (hagree.2 h)
        exact ⟨0, rfl, elected_of_not_agree hdiffer⟩
  · rw [hsources] at hle
    simp only [List.length_cons] at hle
    omega

/-- In downselect mode, the outputs of a cycle with a connected source are the inputs of a single
connected source, and those of two connected sources that agree. -/
theorem downselect_copies_source (hinit : c.Initialised o rt) (hdownselect : c.downselect = true)
    (hseparate : c.Separate rt) (hspared : c.InputsSpared rt)
    (h : c.cycle rt o cycle = some slate') (hconnected : c.connectedSources rt o cycle ≠ []) :
    (∃ source ∈ c.connectedSources rt o cycle, ∀ batch ∈ c.batches,
        rt.load batch.out slate' = rt.load (batch.input source) cycle.slate) ∧
      ∀ source₁ ∈ c.connectedSources rt o cycle, ∀ source₂ ∈ c.connectedSources rt o cycle,
        source₁ ≠ source₂ → c.Agree rt cycle.slate source₁ source₂ →
          ∀ batch ∈ c.batches, batch.type.valueEq (rt.load batch.out slate')
            (rt.load (batch.input source₁) cycle.slate) = true := by
  have hc := hinit.well_formed
  obtain ⟨indices, hindices, hstore⟩ := cycle_spec h
  rw [usedIndices, if_pos hdownselect] at hindices
  obtain ⟨source, rfl, helected⟩ := downselected_source hc hconnected hindices
  have hlt := connected_lt hc helected.connected
  have hcopied (batch : ElementBatch) (hbatch : batch ∈ c.batches) :
      rt.load batch.out slate' = rt.load (batch.input source) cycle.slate :=
    (load_of_copied hc hseparate hlt hstore batch hbatch).trans (hspared.kept hbatch hlt _)
  refine ⟨⟨source, helected.connected, hcopied⟩, ?_⟩
  intro source₁ h₁ source₂ h₂ hne hsame batch hbatch
  have hlt₁ := connected_lt hc h₁
  rw [hcopied batch hbatch]
  have hsame' :
      c.Agree rt (c.updateSources rt o (cycle.accepted o) cycle.slate).1 source₁ source₂ :=
    (hspared.agree_iff hlt₁ (connected_lt hc h₂) _).2 hsame
  rcases helected.agrees source₁ h₁ source₂ h₂ hne hsame' with rfl | rfl | hother
  · exact SlateType.value_eq_trans (hsame batch hbatch) (hsame.symm batch hbatch)
  · exact hsame.symm batch hbatch
  · exact (hspared.agree_iff hlt hlt₁ _).1 hother batch hbatch

end SlateCombiner

namespace Sample

/-- The elements of three sources. -/
def threeSources : Directory :=
  directory [("a.count", .int64), ("b.count", .int64), ("c.count", .int64), ("a.rate", .int32),
    ("b.rate", .int32), ("c.rate", .int32), ("a.mode", .uint8), ("b.mode", .uint8),
    ("c.mode", .uint8)]

/-- A combiner of their rates and modes. -/
def votingCombiner (downselect : Bool) : SlateCombiner where
  isInit := true
  downselect
  numSources := 3
  staleThreshold := 1
  bins := [⟨some .int32, [144, 48, 64, 80]⟩, ⟨some .uint8, [160, 96, 112, 128]⟩]
  sources := [⟨0, 176, 192, 208⟩, ⟨16, 224, 240, 256⟩, ⟨32, 272, 288, 304⟩]
  combinedConnectedTok := 320

/-- The first source has rate 9 and mode 1, and the others have rate 4 and mode 2. -/
def twoAgree : SlateMemory := fun address =>
  if address.1 = .sync then
    if address.2 ∈ [0, 8, 16] then 7
    else if address.2 = 24 then 9
    else if address.2 ∈ [32, 40] then 4
    else if address.2 = 48 then 1
    else if address.2 ∈ [56, 64] then 2
    else 0
  else 0

/-- A combiner that was initialised is one. -/
theorem initialised_of_init (args : CombinerArgs String) (d : Directory) {c : SlateCombiner}
    (h : (combinerOutside.init runtime args .new d).toOption.map Prod.fst = some c) :
    c.Initialised combinerOutside runtime := by
  obtain ⟨⟨made, d'⟩, hsome, rfl⟩ := Option.map_eq_some_iff.1 h
  exact ⟨args, .new, d, d', SlateCombiner.untouched_new, to_option_eq_some.1 hsome⟩

/-- The voting combiner of the sample is initialised. -/
theorem voting_combiner_initialised (downselect : Bool) :
    (votingCombiner downselect).Initialised combinerOutside runtime :=
  initialised_of_init
    (combinerArgs ["a", "b", "c"] "out" downselect [["rate", "int32"], ["mode", "uint8"]])
    threeSources (by cases downselect <;> decide +kernel)

/-- The value of the two sources that agree is selected. -/
theorem two_agree_selected :
    (votingCombiner true).batches.length = 2 ∧
      ∀ batch ∈ (votingCombiner true).batches, batch.type.valueEq
        (runtime.load batch.out (slateAfter (votingCombiner true) .combine twoAgree))
        (runtime.load (batch.input 1) twoAgree) = true := by
  refine ⟨by decide, ?_⟩
  have hcycle := cycle_eq (votingCombiner true) .combine twoAgree (by decide +kernel)
  exact (SlateCombiner.downselect_copies_source (voting_combiner_initialised true) rfl
    (by decide +kernel) (by decide +kernel) hcycle (by decide +kernel)).2 1 (by decide +kernel) 2
      (by decide +kernel) (by decide) (by unfold SlateCombiner.Agree; decide +kernel)

/-- A combiner of a source `nav` into `nav.out`, for `rate` and `out.rate`. The first output is the
second input. -/
def nestedCombiner (downselect : Bool) : SlateCombiner where
  isInit := true
  downselect
  numSources := 1
  staleThreshold := 1
  bins := [⟨some .int32, [32, 16, 48, 32]⟩]
  sources := [⟨0, 64, 80, 96⟩]
  combinedConnectedTok := 112

/-- `nav.rate` is 5 and `nav.out.rate` is 0. -/
def nestedSlate : SlateMemory := fun address =>
  if address = (.sync, 0) then 7 else if address = (.sync, 8) then 5 else 0

/-- The combiner of the sample whose output is an input is initialised. -/
theorem nested_combiner_initialised (downselect : Bool) :
    (nestedCombiner downselect).Initialised combinerOutside runtime :=
  initialised_of_init
    (combinerArgs ["nav"] "nav.out" downselect [["rate", "int32"], ["out.rate", "int32"]])
    (directory [("nav.count", .int64), ("nav.rate", .int32)])
    (by cases downselect <;> decide +kernel)

/-- A combiner of a source `out.combiner` into `out`, for `connected`, with bound metrics: the input
is the flag of the combined output. -/
def flagInputCombiner (downselect : Bool) : SlateCombiner where
  isInit := true
  downselect
  numSources := 1
  staleThreshold := 1
  bins := [⟨some .bool, [32, 16]⟩]
  sources := [⟨0, 48, 64, 80⟩]
  combinedConnectedTok := 16

/-- The flag is 0. -/
def flagInputSlate : SlateMemory := fun address => if address = (.sync, 0) then 7 else 0

/-- The combiner of the sample whose flag is an input is initialised. -/
theorem flag_input_initialised (downselect : Bool) :
    (flagInputCombiner downselect).Initialised combinerOutside runtime :=
  initialised_of_init
    { combinerArgs ["out.combiner"] "out" downselect [["connected", "bool"]] with
      bindMetrics := true }
    (directory [("out.combiner.count", .int64), ("out.combiner.connected", .bool)])
    (by cases downselect <;> decide +kernel)

/-- Two sources with a rate. -/
def twoRates : Directory :=
  directory [("a.count", .int64), ("a.rate", .int32), ("c.count", .int64), ("c.rate", .int32)]

/-- What `init` leaves with the sources `a` and `b`. -/
def ratesLeft : SlateCombiner :=
  { SlateCombiner.new with numSources := 2, sources := [⟨0, 64, 80, 96⟩] }

def twoRatesLeft : Directory :=
  twoRates ++
    [("out.combiner.a.fresh_last", .int64, 2 ^ 63), ("out.combiner.a.fresh_age", .uint8, 1),
      ("out.combiner.a.connected", .bool, 0)]

/-- What it then makes with the source `c`. -/
def againRates (downselect : Bool) : SlateCombiner where
  isInit := true
  downselect
  numSources := 1
  staleThreshold := 1
  bins := [⟨some .int32, [112, 48]⟩]
  sources := [⟨0, 64, 80, 96⟩, ⟨32, 128, 144, 160⟩]
  combinedConnectedTok := 176

/-- Only `a` has updated. Its rate is 9, and that of `c` is 4. -/
def onlyFirst : SlateMemory := fun address =>
  if address = (.sync, 0) then 7
  else if address = (.sync, 8) then 9
  else if address = (.sync, 24) then 4
  else 0

/-- The source that was left is connected, and the rate of `c` is copied, which is not. -/
theorem left_source_used (downselect : Bool) :
    combinerOutside.init runtime (combinerArgs ["a", "b"] "out" downselect []) .new twoRates =
        .error (some (ratesLeft, twoRatesLeft)) ∧
      (combinerOutside.init runtime
        { combinerArgs ["c"] "out" downselect [["rate", "int32"]] with combinerName := "again" }
        ratesLeft twoRatesLeft).toOption.map Prod.fst = some (againRates downselect) ∧
      (againRates downselect).cycle runtime combinerOutside ⟨.combine, onlyFirst⟩ =
        some (slateAfter (againRates downselect) .combine onlyFirst) ∧
      (againRates downselect).connectedSources runtime combinerOutside ⟨.combine, onlyFirst⟩ = [0] ∧
      runtime.load ⟨112, .int32⟩ (slateAfter (againRates downselect) .combine onlyFirst) =
        runtime.load ⟨48, .int32⟩ onlyFirst ∧
      runtime.load ⟨48, .int32⟩ onlyFirst ≠ runtime.load ⟨16, .int32⟩ onlyFirst := by
  refine ⟨?_, ?_, cycle_eq _ _ _ ?_, ?_, ?_, by decide +kernel⟩ <;>
    cases downselect <;> decide +kernel

/-- With nested slates the outputs are both 5, while the inputs were 5 and 0. With the flag as an
input the output is 1, while the input was 0. With a source that a failed `init` has left the output
is that of a source that is not connected. -/
theorem outputs_not_selected :
    ((nestedCombiner true).Initialised combinerOutside runtime ∧
      (nestedCombiner true).cycle runtime combinerOutside ⟨.combine, nestedSlate⟩ =
        some (slateAfter (nestedCombiner true) .combine nestedSlate) ∧
      (nestedCombiner true).connectedSources runtime combinerOutside ⟨.combine, nestedSlate⟩ =
        [0] ∧
      ¬∀ batch ∈ (nestedCombiner true).batches,
        runtime.load batch.out (slateAfter (nestedCombiner true) .combine nestedSlate) =
          runtime.load (batch.input 0) nestedSlate) ∧
    ((flagInputCombiner true).Initialised combinerOutside runtime ∧
      (flagInputCombiner true).cycle runtime combinerOutside ⟨.combine, flagInputSlate⟩ =
        some (slateAfter (flagInputCombiner true) .combine flagInputSlate) ∧
      (flagInputCombiner true).connectedSources runtime combinerOutside
        ⟨.combine, flagInputSlate⟩ = [0] ∧
      ¬∀ batch ∈ (flagInputCombiner true).batches,
        runtime.load batch.out (slateAfter (flagInputCombiner true) .combine flagInputSlate) =
          runtime.load (batch.input 0) flagInputSlate) ∧
    (combinerOutside.init runtime (combinerArgs ["a", "b"] "out" true []) .new twoRates =
        .error (some (ratesLeft, twoRatesLeft)) ∧
      (combinerOutside.init runtime
        { combinerArgs ["c"] "out" true [["rate", "int32"]] with combinerName := "again" }
        ratesLeft twoRatesLeft).toOption.map Prod.fst = some (againRates true) ∧
      (againRates true).cycle runtime combinerOutside ⟨.combine, onlyFirst⟩ =
        some (slateAfter (againRates true) .combine onlyFirst) ∧
      (againRates true).connectedSources runtime combinerOutside ⟨.combine, onlyFirst⟩ = [0] ∧
      runtime.load ⟨112, .int32⟩ (slateAfter (againRates true) .combine onlyFirst) =
        runtime.load ⟨48, .int32⟩ onlyFirst ∧
      runtime.load ⟨48, .int32⟩ onlyFirst ≠ runtime.load ⟨16, .int32⟩ onlyFirst) :=
  ⟨⟨nested_combiner_initialised true, cycle_eq _ _ _ (by decide +kernel), by decide +kernel,
      by decide +kernel⟩,
    ⟨flag_input_initialised true, cycle_eq _ _ _ (by decide +kernel), by decide +kernel,
      by decide +kernel⟩,
    left_source_used true⟩

end Sample

end Codon.Slate
