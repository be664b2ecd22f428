import Codon.Library.Loop
import Codon.Slate.Combiner

/-!
# Storing the outputs of a combiner

The bins of a well-formed combiner (`WellFormed`) consist of whole batches, which are
processed one after the other. As long as no output has bytes in common with what is read or
stored later (`Separate`), every output ends up with the value that its inputs had at first
(`store_all`).
-/

namespace Codon.Slate

open Codon.Library

variable {B D : Type} {o : CombinerOutside B D} {rt : Runtime} {c : SlateCombiner}
  {slate slate' : SlateMemory}

namespace Runtime

/-- Two elements have no byte in common. -/
def Apart (rt : Runtime) (elem elem' : Element) : Prop :=
  (rt.breakdown elem.id).shard ≠ (rt.breakdown elem'.id).shard ∨
    (rt.breakdown elem.id).offset + rt.size elem ≤ (rt.breakdown elem'.id).offset ∨
    (rt.breakdown elem'.id).offset + rt.size elem' ≤ (rt.breakdown elem.id).offset

instance (elem elem' : Element) : Decidable (rt.Apart elem elem') :=
  inferInstanceAs (Decidable (_ ∨ _))

/-- Two elements are apart both ways. -/
theorem Apart.symm {elem elem' : Element} (h : rt.Apart elem elem') : rt.Apart elem' elem := by
  rcases h with hne | hbefore | hafter
  · exact .inl hne.symm
  · exact .inr (.inr hbefore)
  · exact .inr (.inl hafter)

/-- A store leaves the elements alone that it has no byte in common with. -/
theorem load_overwrite_apart {elem elem' : Element} (h : rt.Apart elem elem') (bits : Nat) :
    rt.load elem' (overwrite (rt.change elem bits) slate) = rt.load elem' slate := by
  refine load_overwrite 0 fun a ha => ?_
  obtain ⟨hshard, hlow, hhigh⟩ := change_is_some_iff.1 ha.1
  obtain ⟨hshard', hlow', hhigh'⟩ := change_is_some_iff.1 ha.2
  rcases h with hne | hbefore | hafter
  · exact hne (hshard.symm.trans hshard')
  · omega
  · omega

/-- A write is not seen by an element apart. -/
theorem load_write_apart {elem elem' : Element} (h : rt.Apart elem elem') (bits : Nat) :
    rt.load elem' (rt.write elem bits slate) = rt.load elem' slate :=
  load_overwrite_apart h bits

/-- A write is read back, in the bytes of the element. -/
theorem load_write_self (rt : Runtime) (elem : Element) (bits : Nat) (slate : SlateMemory) :
    rt.load elem (rt.write elem bits slate) = bits % 256 ^ rt.size elem :=
  load_overwrite_self rt elem bits slate

/-- What a successful store does. -/
theorem store_out_eq_some {batch : ElementBatch} {bits : Nat}
    (h : rt.storeOut batch slate bits = some slate') :
    slate' = overwrite (rt.change batch.out bits) slate := by
  obtain ⟨elem, helem, hstore⟩ := Option.bind_eq_some_iff.1 h
  obtain ⟨id, hid, rfl⟩ := Option.map_eq_some_iff.1 helem
  rw [store_eq] at hstore
  split at hstore
  next =>
    cases hstore
    rw [ElementBatch.out, List.getD_eq_getElem?_getD, hid, Option.getD_some]
  next => cases hstore

/-- What is loaded from a batch that is long enough. -/
theorem load_at_eq {batch : ElementBatch} {source : Nat} (h : source + 1 < batch.ids.length) :
    rt.loadAt batch slate (source + 1) = some (rt.load (batch.input source) slate) := by
  rw [loadAt, ElementBatch.element, List.getElem?_eq_getElem h, ElementBatch.input,
    List.getD_eq_getElem?_getD, List.getElem?_eq_getElem h]
  rfl

end Runtime

/-! ## Batches of a bin -/

namespace ElementBatch

/-- A batch with what may follow it left out. -/
def upTo (stride : Nat) (batch : ElementBatch) : ElementBatch :=
  { batch with ids := batch.ids.take stride }

/-- The elements of a batch below a stride stay when it is cut there. -/
theorem element_upTo (batch : ElementBatch) {stride idx : Nat} (h : idx < stride) :
    (batch.upTo stride).element idx = batch.element idx := by
  rw [element, element, upTo, List.getElem?_take_of_lt h]

/-- So does its result. -/
theorem out_upTo (batch : ElementBatch) {stride : Nat} (h : 0 < stride) :
    (batch.upTo stride).out = batch.out := by
  rw [out, out, upTo]
  simp only [List.getD_eq_getElem?_getD, List.getElem?_take_of_lt h]

/-- What is loaded from a batch does not depend on what follows it. -/
theorem load_at_upTo (batch : ElementBatch) {stride idx : Nat} (h : idx < stride) :
    rt.loadAt (batch.upTo stride) slate idx = rt.loadAt batch slate idx := by
  rw [Runtime.loadAt, Runtime.loadAt, batch.element_upTo h]

end ElementBatch

namespace ElementBin

variable {stride : Nat} {bin : ElementBin}

/-- The ids of the batches: those from `0`, from `stride`, and so on. -/
def batchIds (stride : Nat) (bin : ElementBin) : List (List Nat) :=
  (List.range ((bin.ids.length + stride - 1) / stride)).map fun k =>
    (bin.ids.drop (k * stride)).take stride

/-- The batches of a bin that has functions. -/
def batches (stride : Nat) (bin : ElementBin) : List ElementBatch :=
  match bin.type with
  | none => []
  | some type => (bin.batchIds stride).map fun ids => ⟨type, ids⟩

/-- What the functions of a bin go through are its batches, each with all that follows it. -/
theorem rounds_eq {rounds : List ElementBatch} (h : bin.rounds stride = some rounds) :
    bin.batches stride = rounds.map (ElementBatch.upTo stride) := by
  obtain ⟨type, htype, rfl⟩ := Option.map_eq_some_iff.1 h
  rw [batches, htype]
  simp only [batchIds, List.map_map]
  rfl

/-- A loop over a bin that does not look beyond a batch is one over its batches. -/
theorem foldlM_rounds {S : Type} {f : S → ElementBatch → Option S} {s s' : S}
    (hf : ∀ s batch, f s (batch.upTo stride) = f s batch)
    (h : ((bin.rounds stride).bind fun rounds => rounds.foldlM f s) = some s') :
    (bin.batches stride).foldlM f s = some s' := by
  obtain ⟨rounds, hrounds, hloop⟩ := Option.bind_eq_some_iff.1 h
  rw [rounds_eq hrounds, List.foldlM_map]
  simp only [hf]
  exact hloop

/-- A batch has the type of its bin, and ids of its bin. -/
theorem mem_batches {batch : ElementBatch} (h : batch ∈ bin.batches stride) :
    bin.type = some batch.type ∧ batch.ids ∈ bin.batchIds stride := by
  unfold batches at h
  split at h
  next => cases h
  next type htype =>
    obtain ⟨ids, hids, rfl⟩ := List.mem_map.1 h
    exact ⟨htype, hids⟩

end ElementBin

/-- The batches of a bin have as many ids as they should, if the bin consists of whole batches. -/
theorem length_of_mem_batches {stride : Nat} {bin : ElementBin} (hstride : 0 < stride)
    (h : stride ∣ bin.ids.length) {batch : ElementBatch} (hbatch : batch ∈ bin.batches stride) :
    batch.ids.length = stride := by
  obtain ⟨k, hk, hids⟩ := List.mem_map.1 (ElementBin.mem_batches hbatch).2
  rw [← hids]
  obtain ⟨n, hn⟩ := h
  have hcount : (bin.ids.length + stride - 1) / stride = n := by
    rw [hn, Nat.add_sub_assoc hstride, Nat.mul_add_div hstride,
      Nat.div_eq_of_lt (Nat.sub_lt hstride Nat.one_pos), Nat.add_zero]
  rw [hcount, List.mem_range] at hk
  have hroom : (k + 1) * stride ≤ bin.ids.length := by
    rw [hn, Nat.mul_comm stride]
    exact Nat.mul_le_mul_right _ hk
  rw [Nat.add_mul, Nat.one_mul] at hroom
  rw [List.length_take, List.length_drop]
  omega

namespace SlateCombiner

/-- The batches of all bins, in the order in which they are processed. -/
def batches (c : SlateCombiner) : List ElementBatch :=
  c.bins.flatMap fun bin => bin.batches c.stride

/-- No output has bytes in common with an input or another output that is processed after it. -/
def Separate (c : SlateCombiner) (rt : Runtime) : Prop :=
  c.batches.Pairwise fun batch later =>
    (∀ source < c.numSources, rt.Apart batch.out (later.input source)) ∧
      (later = batch ∨ rt.Apart batch.out later.out)

instance : Decidable (c.Separate rt) := inferInstanceAs (Decidable (List.Pairwise _ _))

/-- A combiner whose bins hold whole batches, with as many sources as it is configured with. -/
structure WellFormed (c : SlateCombiner) : Prop where
  length_sources : c.sources.length = c.numSources
  numSources_pos : 0 < c.numSources
  numSources_le : c.numSources ≤ numSourcesMax
  staleThreshold_pos : 0 < c.staleThreshold
  dvd : ∀ bin ∈ c.bins, c.stride ∣ bin.ids.length

/-- A batch has as many identifiers as the stride. -/
theorem WellFormed.length_ids (hc : c.WellFormed) {batch : ElementBatch} (h : batch ∈ c.batches) :
    batch.ids.length = c.stride := by
  obtain ⟨bin, hbin, hbatch⟩ := List.mem_flatMap.1 h
  exact length_of_mem_batches (Nat.succ_pos _) (hc.dvd bin hbin) hbatch

/-- A loop over all bins that does not look beyond a batch is one over all batches. -/
theorem foldlM_bins {S : Type} {f : S → ElementBatch → Option S} {s s' : S}
    {bins : List ElementBin} {stride : Nat}
    (hf : ∀ s batch, f s (batch.upTo stride) = f s batch)
    (h : bins.foldlM (fun s bin => (bin.rounds stride).bind fun rounds => rounds.foldlM f s) s =
      some s') :
    (bins.flatMap fun bin => bin.batches stride).foldlM f s = some s' := by
  induction bins generalizing s with
  | nil => exact h
  | cons bin bins ih =>
      obtain ⟨next, hnext, hrest⟩ := Option.bind_eq_some_iff.1 h
      rw [List.flatMap_cons, List.foldlM_append, ElementBin.foldlM_rounds hf hnext]
      exact ih hrest

variable {value : ElementBatch → SlateMemory → Option Nat} {n : Nat} {batches : List ElementBatch}

/-- An element keeps its bits if no output of the batches has a byte of it. -/
theorem load_store_all {elem : Element} (happart : ∀ batch ∈ batches, rt.Apart batch.out elem)
    (h : batches.foldlM (storeRound rt value) slate = some slate') :
    rt.load elem slate' = rt.load elem slate := by
  induction batches generalizing slate with
  | nil =>
      cases h
      rfl
  | cons batch batches ih =>
      obtain ⟨next, hnext, hrest⟩ := Option.bind_eq_some_iff.1 h
      obtain ⟨bits, -, hstore⟩ := Option.bind_eq_some_iff.1 hnext
      rw [ih (fun batch h => happart batch (List.mem_cons_of_mem _ h)) hrest,
        Runtime.store_out_eq_some hstore,
        Runtime.load_overwrite_apart (happart batch List.mem_cons_self)]

/-- The values are those of the inputs that there were at first, if no output has bytes in common
with what comes later. -/
theorem store_all
    (hvalue : ∀ batch ∈ batches, ∀ slate slate' : SlateMemory,
      (∀ source < n, rt.load (batch.input source) slate = rt.load (batch.input source) slate') →
        value batch slate = value batch slate')
    (hseparate : batches.Pairwise fun batch later =>
      (∀ source < n, rt.Apart batch.out (later.input source)) ∧
        (later = batch ∨ rt.Apart batch.out later.out))
    (h : batches.foldlM (storeRound rt value) slate = some slate') {batch : ElementBatch}
    (hbatch : batch ∈ batches) :
    ∃ bits, value batch slate = some bits ∧
      rt.load batch.out slate' = bits % 256 ^ rt.size batch.out := by
  induction batches generalizing slate with
  | nil => cases hbatch
  | cons first batches ih =>
      obtain ⟨next, hnext, hrest⟩ := Option.bind_eq_some_iff.1 h
      obtain ⟨bits, hbits, hstore⟩ := Option.bind_eq_some_iff.1 hnext
      have hstored := Runtime.store_out_eq_some hstore
      obtain ⟨hfirst, hlater⟩ := List.pairwise_cons.1 hseparate
      have hsame (later : ElementBatch) (hmem : later ∈ batches) :
          value later next = value later slate := by
        refine hvalue later (List.mem_cons_of_mem _ hmem) next slate fun source hsource => ?_
        rw [hstored]
        exact Runtime.load_overwrite_apart ((hfirst later hmem).1 source hsource) bits
      by_cases hmem : batch ∈ batches
      · rw [← hsame batch hmem]
        exact ih (fun later hmem => hvalue later (List.mem_cons_of_mem _ hmem)) hlater hrest hmem
      · -- the batch is the first, and no later one has its output
        have hhead : batch = first := (List.mem_cons.1 hbatch).resolve_right hmem
        subst hhead
        refine ⟨bits, hbits, ?_⟩
        have happart (later : ElementBatch) (hlater : later ∈ batches) :
            rt.Apart later.out batch.out := by
          rcases (hfirst later hlater).2 with rfl | happart
          · exact absurd hlater hmem
          · exact happart.symm
        rw [load_store_all happart hrest, hstored, Runtime.load_overwrite_self]

/-- A round that stores does not look beyond its batch if the value does not. -/
theorem store_round_upTo
    (hround : ∀ batch slate, value (batch.upTo c.stride) slate = value batch slate)
    (slate : SlateMemory) (batch : ElementBatch) :
    storeRound rt value slate (batch.upTo c.stride) = storeRound rt value slate batch := by
  rw [storeRound, storeRound, hround]
  have hout : (batch.upTo c.stride).element 0 = batch.element 0 :=
    batch.element_upTo (Nat.succ_pos _)
  refine congrArg _ (funext fun bits => ?_)
  rw [Runtime.storeOut, Runtime.storeOut, hout]

/-- The values that a batch has in the sources. -/
def inputs (rt : Runtime) (batch : ElementBatch) (slate : SlateMemory) (source : Nat) : Nat :=
  rt.load (batch.input source) slate

/-- What one of the loops leaves in the outputs, if it stores a value that depends on the inputs of
the sources and is one of them. -/
theorem load_of_stored (value : ElementBatch → SlateMemory → Option Nat)
    (result : ElementBatch → (Nat → Nat) → Nat) (hseparate : c.Separate rt)
    (hround : ∀ batch slate, value (batch.upTo c.stride) slate = value batch slate)
    (hvalue : ∀ batch ∈ c.batches, ∀ slate,
      value batch slate = some (result batch (inputs rt batch slate)))
    (hcongr : ∀ batch, ∀ f g : Nat → Nat, (∀ source < c.numSources, f source = g source) →
      result batch f = result batch g)
    (h : c.bins.foldlM (c.forBatches rt value) slate = some slate') {batch : ElementBatch}
    (hbatch : batch ∈ c.batches)
    (hmem : ∃ source, result batch (inputs rt batch slate) = inputs rt batch slate source) :
    rt.load batch.out slate' = result batch (inputs rt batch slate) := by
  have hall : c.batches.foldlM (storeRound rt value) slate = some slate' :=
    foldlM_bins (store_round_upTo hround) h
  obtain ⟨bits, hbits, hout⟩ := store_all (fun batch hbatch slate slate' hsame => by
    rw [hvalue batch hbatch, hvalue batch hbatch,
      hcongr batch (inputs rt batch slate) (inputs rt batch slate') hsame]) hseparate hall hbatch
  rw [hvalue batch hbatch, Option.some.injEq] at hbits
  obtain ⟨source, hsource⟩ := hmem
  rw [hout, ← hbits, hsource]
  exact Nat.mod_eq_of_lt (rt.load_lt (batch.input source) slate)

/-- What is loaded from a batch of a well-formed combiner. -/
theorem WellFormed.load_at (hc : c.WellFormed) {batch : ElementBatch} (h : batch ∈ c.batches)
    {source : Nat} (hsource : source < c.numSources) (slate : SlateMemory) :
    rt.loadAt batch slate (source + 1) = some (inputs rt batch slate source) := by
  refine Runtime.load_at_eq ?_
  rw [hc.length_ids h, stride]
  omega

end SlateCombiner

end Codon.Slate
