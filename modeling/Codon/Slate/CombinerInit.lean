import Codon.Slate.Batches

/-!
# How the bins of a combiner are filled

`init` goes on after an element that could not be set up, with what it has appended to the
bin of that element so far, and fails in the end. So the bins that a successful call has made
hold whole batches, one for each element that is configured (`Filled`). A call that fails
leaves its bins, though, and they stay in front of those of the next call: all bins of a
combiner are as the header describes them exactly if nothing was left (`bins_hold_batches_iff`).
-/

namespace Codon.Slate

open Codon.Library

variable {B D : Type}

/-- What an element adds to the bins. -/
structure ConfiguredBatch where
  path : String
  type : SlateType
  ids : List Nat

namespace CombinerOutside

variable (o : CombinerOutside B D)

/-- The elements of the lines of an entry, each with its path and the name of its type. -/
def configuredLines (elementPrefix : String) (lines : List (List String)) :
    List (String × String) :=
  (lines.filter fun line => line.getD 0 "" ≠ o.sharerIgnoreElementName).map fun line =>
    (elementPrefix ++ line.getD 0 "", line.getD 1 "")

/-- The elements that are configured and not ignored. -/
def configured (args : CombinerArgs B) : List (String × String) :=
  args.configList.flatMap fun entry =>
    o.configuredLines entry.elementPrefix (entry.lines.getD [])

/-- The ids are those of the output and, in the order of the sources, of the inputs of the element
with this path and type. -/
def IsBatch (rt : Runtime) (args : CombinerArgs B) (batch : ConfiguredBatch) : Prop :=
  ∃ d d₁ d₂ idOut inputs, batch.ids = idOut :: inputs ∧
    o.initOutput rt args batch.path batch.type d = (some idOut, d₁) ∧
    o.registerOutputEnum args batch.path d₁ = (true, d₂) ∧
    args.buildersIn.map (fun source => o.getElementId d₂ source.builder batch.path batch.type) =
      inputs.map some

/-- These elements have one batch each. -/
def BatchesOf (rt : Runtime) (args : CombinerArgs B) (elements : List (String × String))
    (batches : List ConfiguredBatch) : Prop :=
  batches.map (fun batch => (batch.path, some batch.type)) =
      elements.map (fun element => (element.1, elementType element.2)) ∧
    ∀ batch ∈ batches, o.IsBatch rt args batch

end CombinerOutside

/-- The bins of a combiner consist of whole batches. Every element that is configured has one of
them, which is in one bin, and there are no others: `parts` says which batches a bin has. -/
def HoldsBatches (o : CombinerOutside B D) (rt : Runtime) (args : CombinerArgs B)
    (c : SlateCombiner) : Prop :=
  (∀ bin ∈ c.bins, c.stride ∣ bin.ids.length) ∧
    ∃ (batches : List ConfiguredBatch) (parts : List (List ConfiguredBatch)),
      o.BatchesOf rt args (o.configured args) batches ∧ parts.flatten.Perm batches ∧
        List.Forall₂ (fun bin part => bin.batchIds c.stride = part.map ConfiguredBatch.ids ∧
          ∀ batch ∈ part, bin.type = some batch.type) c.bins parts

/-- An object in which no earlier call of `init` has left an element or a source, as one that has
been constructed. -/
structure SlateCombiner.Untouched (c : SlateCombiner) : Prop where
  bins : ∀ bin ∈ c.bins, bin.ids = []
  sources : c.sources = []

/-- A combiner just constructed is untouched. -/
theorem SlateCombiner.untouched_new : SlateCombiner.new.Untouched :=
  ⟨fun _ hbin => (by cases hbin), rfl⟩

/-! ## Bins by type -/

section Bins

variable {o : CombinerOutside B D} {rt : Runtime} {args : CombinerArgs B} {type : SlateType}
  {batch : ConfiguredBatch} {batches : List ConfiguredBatch} {names : List String}
  {types : List SlateType} {left : List ElementBin} {state state' : InitState D}

/-- The batches of a type. -/
def ofType (type : SlateType) (batches : List ConfiguredBatch) : List ConfiguredBatch :=
  batches.filter fun batch => batch.type = type

/-- The bin of a type. -/
def binOf (batches : List ConfiguredBatch) (type : SlateType) : ElementBin :=
  ⟨some type, (ofType type batches).flatMap ConfiguredBatch.ids⟩

/-- What setting up an element does to its bin. -/
def pushBatch (batch : ConfiguredBatch) (bin : ElementBin) : ElementBin :=
  ⟨some batch.type, bin.ids ++ batch.ids⟩

/-- The bins of the types that have been configured follow those that were there. -/
structure Filled (left : List ElementBin) (batches : List ConfiguredBatch) (names : List String)
    (types : List SlateType) (state : InitState D) : Prop where
  bins : state.bins = left ++ types.map (binOf batches)
  binSelect : state.binSelect = names.zipIdx left.length
  named : names.map elementType = types.map some
  plain : ∀ name ∈ names, name ≠ "packed_bool"
  nodup : types.Nodup
  covered : ∀ batch ∈ batches, batch.type ∈ types

/-- A type has one name in the bins. -/
theorem element_type_injective {a b : String} (ha : elementType a = some type)
    (hb : elementType b = some type) (ha' : a ≠ "packed_bool") (hb' : b ≠ "packed_bool") :
    a = b := by
  unfold elementType at ha hb
  split at ha <;> cases ha <;> split at hb <;>
    first | rfl | exact absurd rfl ha' | exact absurd rfl hb' | cases hb

/-- The name of the bin of a type that a line names. -/
theorem bin_name (typeName : String) :
    ∃ name, (if typeName = "packed_bool" then "bool" else typeName) = name ∧
      elementType name = elementType typeName ∧ name ≠ "packed_bool" := by
  by_cases hpacked : typeName = "packed_bool"
  · subst hpacked
    exact ⟨"bool", if_pos rfl, rfl, by decide⟩
  · exact ⟨typeName, if_neg hpacked, rfl, hpacked⟩

/-- A batch is pushed into the bin of its own type. -/
theorem bin_of_self : binOf (batches ++ [batch]) batch.type =
    pushBatch batch (binOf batches batch.type) := by
  simp [binOf, pushBatch, ofType]

/-- The bins of the other types stay as they are. -/
theorem bin_of_other (hne : type ≠ batch.type) :
    binOf (batches ++ [batch]) type = binOf batches type := by
  simp [binOf, ofType, hne.symm]

/-- The place of a name that has a bin. -/
theorem lookup_of_mem {name : String} (h : name ∈ names) (first : Nat) :
    ∃ i, names[i]? = some name ∧ (names.zipIdx first).lookup name = some (first + i) := by
  induction names generalizing first with
  | nil => cases h
  | cons other names ih =>
      by_cases heq : name = other
      · exact ⟨0, by rw [heq]; rfl, by simp [heq]⟩
      · obtain ⟨i, hi, hlookup⟩ := ih ((List.mem_cons.1 h).resolve_left heq) (first + 1)
        refine ⟨i + 1, hi, ?_⟩
        rw [List.zipIdx_cons, List.lookup_cons, beq_false_of_ne heq, hlookup]
        exact congrArg some (by omega)

/-- A name that was not numbered has no number. -/
theorem lookup_of_not_mem {name : String} (h : name ∉ names) (first : Nat) :
    (names.zipIdx first).lookup name = none := by
  induction names generalizing first with
  | nil => rfl
  | cons other names ih =>
      rw [List.zipIdx_cons, List.lookup_cons, beq_false_of_ne (List.ne_of_not_mem_cons h)]
      exact ih (List.not_mem_of_not_mem_cons h) _

/-- Modifying past a prefix modifies the rest of the list. -/
theorem modify_append {A : Type} (f : A → A) (xs ys : List A) (i : Nat) :
    (xs ++ ys).modify (xs.length + i) f = xs ++ ys.modify i f := by
  induction xs with
  | nil => rw [List.nil_append, List.length_nil, Nat.zero_add, List.nil_append]
  | cons x xs ih =>
      rw [List.cons_append, List.length_cons, Nat.add_right_comm, List.modify_succ_cons, ih,
        List.cons_append]

/-- The bins after a batch was pushed to that of its type. -/
theorem modify_bins {i : Nat} (hnodup : types.Nodup) (hi : types[i]? = some batch.type) :
    (types.map (binOf batches)).modify i (pushBatch batch) =
      types.map (binOf (batches ++ [batch])) := by
  refine List.ext_getElem (by simp) fun k hk hk' => ?_
  have hlt : k < types.length := by simpa using hk'
  rw [List.getElem_modify, List.getElem_map, List.getElem_map]
  obtain ⟨hi', htype⟩ := List.getElem?_eq_some_iff.1 hi
  split
  next heq =>
    subst heq
    rw [htype, bin_of_self]
  next hne =>
    refine (bin_of_other fun heq => hne ?_).symm
    exact hnodup.getElem_inj_iff.1 (htype.trans heq.symm)

/-- An element that is set up adds its batch to the bin of its type. -/
theorem Filled.push (h : Filled left batches names types state) (batch : ConfiguredBatch)
    {name : String} (htype : elementType name = some batch.type) (hname : name ≠ "packed_bool")
    (d : D) (ok : Bool) :
    ∃ names' types', Filled left (batches ++ [batch]) names' types'
      { (state.selectBin name).2 with
        bins := (state.selectBin name).2.bins.modify (state.selectBin name).1 (pushBatch batch)
        d
        initializationOk := ok } := by
  have hlength : names.length = types.length := by
    rw [← List.length_map (f := elementType), h.named, List.length_map]
  by_cases hmem : name ∈ names
  · obtain ⟨i, hi, hlookup⟩ := lookup_of_mem hmem left.length
    have hselect : state.selectBin name = (left.length + i, state) := by
      rw [InitState.selectBin, h.binSelect, hlookup]
    have hat : types[i]? = some batch.type := by
      have hmap := congrArg (fun l => l[i]?) h.named
      simp only [List.getElem?_map, hi, Option.map_some, htype] at hmap
      obtain ⟨t, ht, heq⟩ := Option.map_eq_some_iff.1 hmap.symm
      rw [ht, Option.some.inj heq]
    rw [hselect]
    refine ⟨names, types, ?_, h.binSelect, h.named, h.plain, h.nodup, ?_⟩
    · simp only
      rw [h.bins, modify_append, modify_bins h.nodup hat]
    · intro b hb
      rcases List.mem_append.1 hb with hold | hnew
      · exact h.covered b hold
      · rw [List.mem_singleton.1 hnew]
        exact List.mem_of_getElem? hat
  · have hselect : state.selectBin name = (state.bins.length,
        { state with
          bins := state.bins ++ [⟨none, []⟩]
          binSelect := state.binSelect ++ [(name, state.bins.length)] }) := by
      rw [InitState.selectBin, h.binSelect, lookup_of_not_mem hmem]
    -- the type has not been configured yet, since it has one name
    have hnew : batch.type ∉ types := by
      intro hin
      have hsome : some batch.type ∈ names.map elementType := by
        rw [h.named]
        exact List.mem_map_of_mem hin
      obtain ⟨other, hother, heq⟩ := List.mem_map.1 hsome
      exact hmem (element_type_injective heq htype (h.plain other hother) hname ▸ hother)
    have hbins : state.bins.length = left.length + names.length := by
      rw [h.bins, List.length_append, List.length_map, hlength]
    have hold : types.map (binOf (batches ++ [batch])) = types.map (binOf batches) :=
      List.map_congr_left fun t ht => bin_of_other fun heq => hnew (heq ▸ ht)
    have hempty : ofType batch.type batches = [] :=
      List.filter_eq_nil_iff.2 fun b hb heq => hnew (of_decide_eq_true heq ▸ h.covered b hb)
    rw [hselect]
    refine ⟨names ++ [name], types ++ [batch.type], ?_, ?_, ?_, ?_, ?_, ?_⟩
    · have hlast := modify_append (pushBatch batch) state.bins [⟨none, []⟩] 0
      simp only
      rw [Nat.add_zero] at hlast
      rw [hlast, h.bins, List.map_append, hold, List.append_assoc]
      simp [pushBatch, binOf, ofType, show batches.filter _ = [] from hempty]
    · simp only
      rw [h.binSelect, hbins, List.zipIdx_append, List.zipIdx_singleton]
    · rw [List.map_append, List.map_append, h.named, List.map_singleton, List.map_singleton, htype]
    · intro other hother
      rcases List.mem_append.1 hother with hin | hin
      · exact h.plain other hin
      · rw [List.mem_singleton.1 hin]
        exact hname
    · refine List.nodup_append.2 ⟨h.nodup, List.nodup_singleton _, ?_⟩
      intro a ha b hb heq
      rw [List.mem_singleton.1 hb] at heq
      exact hnew (heq ▸ ha)
    · intro b hb
      rcases List.mem_append.1 hb with hin | hin
      · exact List.mem_append_left _ (h.covered b hin)
      · rw [List.mem_singleton.1 hin]
        exact List.mem_append_right _ List.mem_cons_self

/-! ## The loop over the configuration -/

variable {path typeName : String} {d d' : D} {ids : List Nat} {elements : List (String × String)}

/-- The inputs of an element of which all are found. -/
theorem push_inputs_ok {sources : List (CombinerIn B)}
    (h : o.pushInputs path type d sources = (true, ids)) :
    sources.map (fun source => o.getElementId d source.builder path type) = ids.map some := by
  induction sources generalizing ids with
  | nil =>
      cases h
      rfl
  | cons source sources ih =>
      rw [CombinerOutside.pushInputs] at h
      split at h
      next => cases h
      next id hid =>
        simp only [Prod.mk.injEq] at h
        obtain ⟨hok, rfl⟩ := h
        rw [List.map_cons, List.map_cons, hid, ih (Prod.ext hok rfl)]

/-- What an element that is set up has appended. -/
theorem is_batch_init_element (h : o.initElement rt args path type d = (true, ids, d')) :
    o.IsBatch rt args ⟨path, type, ids⟩ := by
  unfold CombinerOutside.initElement at h
  split at h
  next => cases h
  next idOut d₁ houtput =>
    split at h
    next => cases h
    next d₂ henum =>
      simp only [Prod.mk.injEq] at h
      obtain ⟨hok, rfl, -⟩ := h
      exact ⟨d, d₁, d₂, idOut, _, rfl, houtput, henum, push_inputs_ok (Prod.ext hok rfl)⟩

/-- A batch has one identifier for each source and one for the result. -/
theorem CombinerOutside.IsBatch.length_ids (h : o.IsBatch rt args batch) :
    batch.ids.length = args.buildersIn.length + 1 := by
  obtain ⟨_, _, _, idOut, inputs, hids, -, -, hinputs⟩ := h
  have hlength := congrArg List.length hinputs
  rw [List.length_map, List.length_map] at hlength
  rw [hids, List.length_cons, hlength]

/-- Nothing has failed so far only if the bins hold the batches of the elements so far. -/
def FilledUnlessFailed (o : CombinerOutside B D) (rt : Runtime) (args : CombinerArgs B)
    (left : List ElementBin) (elements : List (String × String)) (state : InitState D) : Prop :=
  state.initializationOk = true → ∃ batches names types,
    o.BatchesOf rt args elements batches ∧ Filled left batches names types state

/-- Choosing a bin changes nothing else. -/
theorem select_bin_kept (typeName : String) (state : InitState D) :
    (state.selectBin typeName).2.d = state.d ∧
      (state.selectBin typeName).2.initializationOk = state.initializationOk := by
  unfold InitState.selectBin
  split <;> exact ⟨rfl, rfl⟩

/-- A line adds the batch of its element, or the failure is noted. -/
theorem filled_line {elementPrefix : String} {line : List String}
    (hstate : FilledUnlessFailed o rt args left elements state)
    (h : o.initLine rt args elementPrefix state line = .ok state') :
    FilledUnlessFailed o rt args left (elements ++ o.configuredLines elementPrefix [line])
      state' := by
  unfold CombinerOutside.initLine at h
  split at h
  next name typeName rest =>
    rw [CombinerOutside.configuredLines, List.filter_singleton, List.getD_cons_zero]
    by_cases hignored : name = o.sharerIgnoreElementName
    · rw [if_pos hignored] at h
      cases h
      -- an element that is ignored adds nothing
      simpa [hignored] using hstate
    · obtain ⟨binName, hname, htype, hplain⟩ := bin_name typeName
      rw [if_neg hignored] at h
      simp only [hname] at h
      split at h
      next type hline =>
        cases h
        intro hok
        simp only [select_bin_kept, Bool.and_eq_true] at hok ⊢
        generalize hmade : o.initElement rt args (elementPrefix ++ name) type state.d = made at *
        obtain ⟨ok, ids, d₁⟩ := made
        -- nothing is said about a line after one that has failed
        obtain ⟨rfl, hbefore⟩ := hok
        obtain ⟨batches, names, types, ⟨hpaths, hall⟩, hfilled⟩ := hstate hbefore
        obtain ⟨names', types', hpushed⟩ :=
          hfilled.push ⟨elementPrefix ++ name, type, ids⟩ hline hplain d₁ true
        refine ⟨_, names', types', ⟨?_, ?_⟩, by rw [hbefore]; exact hpushed⟩
        · rw [List.map_append, List.map_append, hpaths]
          simp [hignored, ← htype, hline]
        · intro b hb
          rcases List.mem_append.1 hb with hold | hlast
          · exact hall b hold
          · rw [List.mem_singleton.1 hlast]
            exact is_batch_init_element hmade
      next =>
        cases h
        intro hok
        cases hok
  next => cases h

/-- The lines of an entry add the batches of its elements. -/
theorem filled_config {entry : SharerConfig}
    (hstate : FilledUnlessFailed o rt args left elements state)
    (h : o.initConfig rt args state entry = .ok state') :
    FilledUnlessFailed o rt args left
      (elements ++ o.configuredLines entry.elementPrefix (entry.lines.getD [])) state' := by
  unfold CombinerOutside.initConfig at h
  split at h
  next => cases h
  next lines hlines =>
    rw [hlines, Option.getD_some]
    refine foldlM_ok_prefix (P := fun lines state => FilledUnlessFailed o rt args left
      (elements ++ o.configuredLines entry.elementPrefix lines) state) h
      (by rwa [CombinerOutside.configuredLines, List.filter_nil, List.map_nil,
        List.append_nil]) ?_
    intro earlier state state' line hearlier hline
    have hnext := filled_line hearlier hline
    rwa [List.append_assoc, CombinerOutside.configuredLines, CombinerOutside.configuredLines,
      ← List.map_append, ← List.filter_append] at hnext

/-- The loop over the configuration fills the bins after those that there were. -/
theorem filled_configs (h : o.initBins rt args left d = .ok state) :
    ∃ batches names types, o.BatchesOf rt args (o.configured args) batches ∧
      Filled left batches names types state := by
  obtain ⟨last, hloop, h⟩ := bind_eq_ok.1 h
  split at h
  next hok =>
    cases h
    refine foldlM_ok_prefix (P := fun entries state => FilledUnlessFailed o rt args left
      (entries.flatMap fun entry =>
        o.configuredLines entry.elementPrefix (entry.lines.getD [])) state) hloop ?_ ?_ hok
    · intro _
      refine ⟨[], [], [], ⟨rfl, fun _ hbatch => (by cases hbatch)⟩, ?_⟩
      exact ⟨(List.append_nil _).symm, rfl, rfl, fun _ hname => (by cases hname), List.nodup_nil,
        fun _ hbatch => (by cases hbatch)⟩
    · intro earlier state state' entry hearlier hentry
      rw [List.flatMap_append, List.flatMap_singleton]
      exact filled_config hearlier hentry
  next => cases h

/-! ## All bins -/

variable {stride : Nat} {bin : ElementBin} {bins : List ElementBin}

/-- The batches of a bin are the parts that its ids were put together from. -/
theorem batch_ids_flatten {parts : List (List Nat)} (hstride : 0 < stride)
    (hparts : ∀ ids ∈ parts, ids.length = stride) (hids : bin.ids = parts.flatten) :
    bin.batchIds stride = parts := by
  have hlength : parts.flatten.length = parts.length * stride := by
    rw [List.length_flatten, List.map_congr_left hparts, List.map_const', List.sum_replicate_nat]
  have hcount : (parts.flatten.length + stride - 1) / stride = parts.length := by
    rw [hlength, Nat.add_sub_assoc hstride, Nat.mul_comm, Nat.mul_add_div hstride,
      Nat.div_eq_of_lt (Nat.sub_lt hstride Nat.one_pos), Nat.add_zero]
  rw [ElementBin.batchIds, hids, hcount]
  clear hlength hcount hids
  induction parts with
  | nil => rfl
  | cons ids parts ih =>
      obtain ⟨hids, hrest⟩ := List.forall_mem_cons.1 hparts
      rw [List.length_cons, List.range_succ_eq_map, List.map_cons, List.map_map]
      refine List.cons_eq_cons.2 ⟨?_, ?_⟩
      · rw [Nat.zero_mul, List.drop_zero, List.flatten_cons, ← hids, List.take_left]
      · refine Eq.trans (List.map_congr_left fun k _ => ?_) (ih hrest)
        rw [Function.comp_apply, Nat.succ_mul, Nat.add_comm, List.flatten_cons, ← List.drop_drop,
          ← hids, List.drop_left]

/-- A bin of whole batches has as many ids as they have together. -/
theorem length_of_batch_ids {part : List ConfiguredBatch} (hstride : 0 < stride)
    (hdvd : stride ∣ bin.ids.length)
    (hpart : bin.batchIds stride = part.map ConfiguredBatch.ids) :
    bin.ids.length = stride * part.length := by
  obtain ⟨n, hn⟩ := hdvd
  have hcount := congrArg List.length hpart
  rw [ElementBin.batchIds, List.length_map, List.length_range, List.length_map, hn,
    Nat.add_sub_assoc hstride, Nat.mul_add_div hstride,
    Nat.div_eq_of_lt (Nat.sub_lt hstride Nat.one_pos), Nat.add_zero] at hcount
  rw [hn, hcount]

/-- The batches by type are the batches in another order. -/
theorem flatten_of_type_perm (hnodup : types.Nodup)
    (hcovered : ∀ batch ∈ batches, batch.type ∈ types) :
    (types.map fun type => ofType type batches).flatten.Perm batches := by
  induction types generalizing batches with
  | nil =>
      have hnone : batches = [] :=
        List.eq_nil_iff_forall_not_mem.2 fun batch hbatch => by cases hcovered batch hbatch
      rw [hnone]
      exact .refl _
  | cons first types ih =>
      obtain ⟨hfirst, hrest⟩ := List.nodup_cons.1 hnodup
      have hothers : (types.map fun type => ofType type batches) = types.map fun type =>
          ofType type (batches.filter fun batch => !decide (batch.type = first)) := by
        refine List.map_congr_left fun type htype => ?_
        rw [ofType, ofType, List.filter_filter]
        refine List.filter_congr fun batch _ => ?_
        by_cases heq : batch.type = type
        · have hne : ¬type = first := fun h => hfirst (h ▸ htype)
          simp [heq, hne]
        · simp [heq]
      have hcovered' : ∀ batch ∈ batches.filter fun batch => !decide (batch.type = first),
          batch.type ∈ types := by
        intro batch hbatch
        obtain ⟨hmem, hne⟩ := List.mem_filter.1 hbatch
        refine (List.mem_cons.1 (hcovered batch hmem)).resolve_left fun heq => ?_
        simp [heq] at hne
      have hperm := ih hrest hcovered'
      rw [List.map_cons, List.flatten_cons, hothers]
      exact (hperm.append_left _).trans (List.filter_append_perm _ batches)

/-- The number of ids in some bins. -/
def idCount (bins : List ElementBin) : Nat := (bins.map fun bin => bin.ids.length).sum

/-- Identifiers are counted bin by bin. -/
theorem id_count_cons (bin : ElementBin) (bins : List ElementBin) :
    idCount (bin :: bins) = bin.ids.length + idCount bins := by
  rw [idCount, idCount, List.map_cons, List.sum_cons]

/-- Two lists of bins count apart. -/
theorem id_count_append (bins bins' : List ElementBin) :
    idCount (bins ++ bins') = idCount bins + idCount bins' := by
  rw [idCount, idCount, idCount, List.map_append, List.sum_append]

/-- Nothing is counted exactly when every bin is empty. -/
theorem id_count_eq_zero_iff : idCount bins = 0 ↔ ∀ bin ∈ bins, bin.ids = [] := by
  induction bins with
  | nil => exact iff_of_true rfl fun _ hbin => by cases hbin
  | cons bin bins ih =>
      rw [id_count_cons, Nat.add_eq_zero_iff, ih, List.length_eq_zero_iff, List.forall_mem_cons]

/-- Bins of whole batches have as many ids as the batches together. -/
theorem id_count_parts {parts : List (List ConfiguredBatch)} (hstride : 0 < stride)
    (hdvd : ∀ bin ∈ bins, stride ∣ bin.ids.length)
    (h : List.Forall₂ (fun bin part => bin.batchIds stride = part.map ConfiguredBatch.ids ∧
      ∀ batch ∈ part, bin.type = some batch.type) bins parts) :
    idCount bins = stride * parts.flatten.length := by
  induction h with
  | nil => rfl
  | cons hpart _ ih =>
      obtain ⟨hfirst, hrest⟩ := List.forall_mem_cons.1 hdvd
      rw [List.flatten_cons, List.length_append, Nat.mul_add, ← ih hrest,
        ← length_of_batch_ids hstride hfirst hpart.1]
      rfl

/-- A bin that was made has the batches of its type. -/
theorem length_bin_of (hlength : ∀ batch ∈ batches, batch.ids.length = stride)
    (type : SlateType) :
    (binOf batches type).ids.length = (ofType type batches).length * stride := by
  have hmap : (ofType type batches).map (fun batch => batch.ids.length) =
      (ofType type batches).map fun _ => stride :=
    List.map_congr_left fun batch hbatch => hlength batch (List.mem_of_mem_filter hbatch)
  rw [binOf, List.length_flatMap, hmap, List.map_const', List.sum_replicate_nat]

/-- Bins made of batches of one length are multiples of it. -/
theorem dvd_made (hlength : ∀ batch ∈ batches, batch.ids.length = stride)
    (types : List SlateType) : ∀ bin ∈ types.map (binOf batches), stride ∣ bin.ids.length := by
  rw [List.forall_mem_map]
  exact fun type _ => Dvd.intro_left _ (length_bin_of hlength type).symm

/-- The bins that are made have the batches of their types. -/
theorem made_parts (hstride : 0 < stride)
    (hlength : ∀ batch ∈ batches, batch.ids.length = stride) (types : List SlateType) :
    List.Forall₂ (fun bin part => bin.batchIds stride = part.map ConfiguredBatch.ids ∧
      ∀ batch ∈ part, bin.type = some batch.type) (types.map (binOf batches))
      (types.map fun type => ofType type batches) := by
  rw [List.forall₂_map_left_iff, List.forall₂_map_right_iff, List.forall₂_same]
  intro type _
  refine ⟨batch_ids_flatten hstride ?_ List.flatMap_def, fun batch hbatch => ?_⟩
  · intro ids hids
    obtain ⟨batch, hbatch, rfl⟩ := List.mem_map.1 hids
    exact hlength batch (List.mem_of_mem_filter hbatch)
  · exact congrArg some (of_decide_eq_true (List.mem_filter.1 hbatch).2).symm

/-- Bins that hold nothing have no batches. -/
theorem left_parts (hempty : ∀ bin ∈ left, bin.ids = []) :
    List.Forall₂ (fun bin part => bin.batchIds stride = part.map ConfiguredBatch.ids ∧
      ∀ batch ∈ part, bin.type = some batch.type) left (left.map fun _ => []) := by
  rw [List.forall₂_map_right_iff, List.forall₂_same]
  intro bin hbin
  refine ⟨?_, fun _ hbatch => (by cases hbatch)⟩
  have hcount : (0 + stride - 1) / stride = 0 := by
    cases stride with
    | zero => rfl
    | succ n => exact Nat.div_eq_of_lt (by omega)
  rw [ElementBin.batchIds, hempty bin hbin, List.length_nil, hcount]
  rfl

end Bins

/-! ## Combiners that have been initialised -/

section Init

variable {o : CombinerOutside B D} {rt : Runtime} {args : CombinerArgs B} {c c' : SlateCombiner}
  {d d' : D}

/-- What `init` does where it succeeds. -/
theorem init_ok (h : o.init rt args c d = .ok (c', d')) :
    0 < args.buildersIn.length ∧ args.buildersIn.length ≤ numSourcesMax ∧
      0 < args.staleThreshold ∧
      ∃ state sub sources d₁ combinedConnectedTok,
        o.initBins rt args c.bins d = .ok state ∧
        args.buildersIn.foldlM (o.initSource args sub) (c.sources, state.d) = .ok (sources, d₁) ∧
        o.initConnected args sub d₁ = (some combinedConnectedTok, d') ∧
        c' =
          { isInit := true
            downselect := args.downselect
            numSources := args.buildersIn.length
            staleThreshold := args.staleThreshold
            bins := state.bins
            sources
            combinedConnectedTok } := by
  unfold CombinerOutside.init at h
  split_ifs at h with hinit hrange
  simp only at h
  split at h
  next => cases h
  next state hstate =>
    unfold CombinerOutside.initRest at h
    split_ifs at h with hthreshold
    simp only at h
    split at h
    next => cases h
    next sub _ =>
      split at h
      next => cases h
      next => cases h
      next sources d₁ hsources =>
        split at h
        next => cases h
        next tok d₂ hconnected =>
          cases h
          exact ⟨by omega, by omega, UInt8.pos_iff_ne_zero.2 hthreshold, state, sub, sources, d₁,
            tok, hstate, hsources, hconnected, rfl⟩

/-- A successful `init` that has not found any ids leaves whole batches. -/
theorem holds_batches_of_empty (h : o.init rt args c d = .ok (c', d'))
    (hempty : ∀ bin ∈ c.bins, bin.ids = []) : HoldsBatches o rt args c' := by
  obtain ⟨-, -, -, state, sub, sources, d₁, tok, hbins, -, -, rfl⟩ := init_ok h
  obtain ⟨batches, names, types, hof, hfilled⟩ := filled_configs hbins
  have hlength (batch : ConfiguredBatch) (hbatch : batch ∈ batches) :
      batch.ids.length = args.buildersIn.length + 1 := (hof.2 batch hbatch).length_ids
  refine ⟨?_, batches, c.bins.map (fun _ => []) ++ types.map fun type => ofType type batches, hof,
    ?_, ?_⟩
  · show ∀ bin ∈ state.bins, args.buildersIn.length + 1 ∣ bin.ids.length
    rw [hfilled.bins, List.forall_mem_append]
    refine ⟨fun bin hbin => ?_, dvd_made hlength types⟩
    rw [hempty bin hbin]
    exact dvd_zero _
  · simpa using flatten_of_type_perm hfilled.nodup hfilled.covered
  · show List.Forall₂ _ state.bins _
    rw [hfilled.bins]
    exact List.rel_append (left_parts hempty) (made_parts (Nat.succ_pos _) hlength types)

/-- Where ids were left, there are more of them than the elements have. -/
theorem empty_of_holds_batches (h : o.init rt args c d = .ok (c', d'))
    (hholds : HoldsBatches o rt args c') : ∀ bin ∈ c.bins, bin.ids = [] := by
  obtain ⟨-, -, -, state, sub, sources, d₁, tok, hbins, -, -, rfl⟩ := init_ok h
  obtain ⟨batches, names, types, hof, hfilled⟩ := filled_configs hbins
  obtain ⟨hdvd, batches', parts, hof', hperm', hparts⟩ := hholds
  have hstride : 0 < args.buildersIn.length + 1 := Nat.succ_pos _
  have hlength (batch : ConfiguredBatch) (hbatch : batch ∈ batches) :
      batch.ids.length = args.buildersIn.length + 1 := (hof.2 batch hbatch).length_ids
  have hcount : batches'.length = batches.length := by
    have hsame := congrArg List.length (hof'.1.trans hof.1.symm)
    rwa [List.length_map, List.length_map] at hsame
  have hall := id_count_parts hstride hdvd hparts
  have hnew := id_count_parts hstride (dvd_made hlength types) (made_parts hstride hlength types)
  simp only at hall
  rw [hperm'.length_eq, hcount, hfilled.bins, id_count_append, hnew,
    (flatten_of_type_perm hfilled.nodup hfilled.covered).length_eq] at hall
  exact id_count_eq_zero_iff.1 (by omega)

/-- The bins of a combiner after a successful `init`: each holds whole batches, every element that
is configured and not ignored has one batch in one bin, with its path and its type, and there are
no other batches, exactly if no earlier call that failed has left the ids of an element. -/
theorem bins_hold_batches_iff (h : o.init rt args c d = .ok (c', d')) :
    c'.numSources = args.buildersIn.length ∧
      (HoldsBatches o rt args c' ↔ ∀ bin ∈ c.bins, bin.ids = []) := by
  refine ⟨?_, empty_of_holds_batches h, holds_batches_of_empty h⟩
  obtain ⟨-, -, -, _, _, _, _, _, -, -, -, rfl⟩ := init_ok h
  rfl

/-- A source is granted only when the builder answers with an identifier. -/
theorem granted_ok {sources : List Source} {answer : Option Nat × D} {id : Nat}
    (h : CombinerOutside.granted sources answer = .ok (id, d)) : answer = (some id, d) := by
  unfold CombinerOutside.granted at h
  split at h
  next =>
    cases h
    rfl
  next => cases h

/-- A round of the loop over the sources binds a freshness element, creates three metrics and
appends a source. -/
theorem init_source_ok {sub : B} {state state' : List Source × D} {builder : CombinerIn B}
    (h : o.initSource args sub state builder = .ok state') :
    ∃ source d₁ d₂ d₃,
      o.bindRead state.2 builder.builder args.fresh .int64 = (some source.freshTok, d₁) ∧
      o.create d₁ sub (builder.name ++ ".fresh_last") .int64 seqDefaultBits .slatePrivate =
        (some source.freshLastTok, d₂) ∧
      o.create d₂ sub (builder.name ++ ".fresh_age") .uint8 args.staleThreshold.toNat
        .slatePrivate = (some source.freshAgeTok, d₃) ∧
      o.create d₃ sub (builder.name ++ ".connected") .bool 0 .slateReadOnly =
        (some source.connectedTok, state'.2) ∧
      state'.1 = state.1 ++ [source] := by
  obtain ⟨⟨freshTok, d₁⟩, hfresh, h⟩ := bind_eq_ok.1 h
  obtain ⟨⟨freshLastTok, d₂⟩, hlast, h⟩ := bind_eq_ok.1 h
  obtain ⟨⟨freshAgeTok, d₃⟩, hage, h⟩ := bind_eq_ok.1 h
  obtain ⟨⟨connectedTok, d₄⟩, hconnected, h⟩ := bind_eq_ok.1 h
  split_ifs at h
  cases h
  exact ⟨⟨freshTok, freshLastTok, freshAgeTok, connectedTok⟩, d₁, d₂, d₃, granted_ok hfresh,
    granted_ok hlast, granted_ok hage, granted_ok hconnected, rfl⟩

/-- What `init` appends to the sources. -/
theorem init_sources {sub : B} {builders : List (CombinerIn B)} {state state' : List Source × D}
    (h : builders.foldlM (o.initSource args sub) state = .ok state') :
    ∃ made : List Source, made.length = builders.length ∧ state'.1 = state.1 ++ made := by
  refine foldlM_ok_prefix (P := fun earlier (state' : List Source × D) =>
    ∃ made : List Source, made.length = earlier.length ∧ state'.1 = state.1 ++ made) h
    ⟨[], rfl, (List.append_nil _).symm⟩ ?_
  rintro earlier before after builder ⟨made, hlength, hmade⟩ hround
  obtain ⟨source, _, _, _, -, -, -, -, hsource⟩ := init_source_ok hround
  refine ⟨made ++ [source], ?_, ?_⟩
  · rw [List.length_append, List.length_append, hlength]
    rfl
  · rw [hsource, hmade, List.append_assoc]

namespace SlateCombiner

/-- A combiner that `init` has made of an object in which nothing was left. -/
def Initialised (o : CombinerOutside B D) (rt : Runtime) (c : SlateCombiner) : Prop :=
  ∃ args c₀ d d', c₀.Untouched ∧ o.init rt args c₀ d = .ok (c, d')

/-- It has whole batches, and one source for each of the builders. -/
theorem Initialised.well_formed (h : c.Initialised o rt) : c.WellFormed := by
  obtain ⟨args, c₀, d, d', huntouched, hinit⟩ := h
  have hholds := holds_batches_of_empty hinit huntouched.bins
  obtain ⟨hpos, hle, hthreshold, state, sub, sources, d₁, tok, -, hsources, -, rfl⟩ := init_ok hinit
  obtain ⟨made, hlength, hmade⟩ := init_sources hsources
  rw [huntouched.sources, List.nil_append] at hmade
  exact ⟨(congrArg List.length hmade).trans hlength, hpos, hle, hthreshold, hholds.1⟩

end SlateCombiner

end Init

namespace Sample

/-- The elements of two sources. -/
def pairedSources : Directory :=
  directory [("a.count", .int64), ("b.count", .int64), ("a.rate", .int32), ("b.rate", .int32),
    ("a.on", .bool), ("b.on", .bool), ("a.mode", .int32), ("b.mode", .int32), ("a.gain", .double)]

/-- Three elements that are combined, and one that is not. -/
def mixedLines : List (List String) :=
  [["rate", "int32"], ["-", "int32"], ["on", "packed_bool"], ["mode", "int32", "enum"]]

/-- A new combiner has one bin for the two integers and one for the boolean. -/
theorem mixed_lines_batched :
    ∃ c d', combinerOutside.init runtime
        (combinerArgs ["a", "b"] "out" false mixedLines) .new pairedSources = .ok (c, d') ∧
      c.bins = [⟨some .int32, [144, 32, 48, 176, 96, 112]⟩, ⟨some .bool, [160, 64, 80]⟩] ∧
      HoldsBatches combinerOutside runtime (combinerArgs ["a", "b"] "out" false mixedLines) c := by
  have hinit : (combinerOutside.init runtime (combinerArgs ["a", "b"] "out" false mixedLines) .new
      pairedSources).toOption.map (fun made => made.1.bins) =
        some [⟨some .int32, [144, 32, 48, 176, 96, 112]⟩, ⟨some .bool, [160, 64, 80]⟩] := by
    decide +kernel
  obtain ⟨⟨c, d'⟩, hsome, hbins⟩ := Option.map_eq_some_iff.1 hinit
  have hok := to_option_eq_some.1 hsome
  exact ⟨c, d', hok, hbins,
    (bins_hold_batches_iff hok).2.2 SlateCombiner.untouched_new.bins⟩

/-- What is left of an `init` that fails, since `b` has no gain: the ids of the output and of the
first input. -/
def gainLeft : SlateCombiner where
  isInit := false
  downselect := false
  numSources := 2
  staleThreshold := 1
  bins := [⟨none, [144, 128]⟩]
  sources := []
  combinedConnectedTok := 0

/-- The next call succeeds, and the first of its bins is no whole batch. -/
theorem left_ids_stay :
    combinerOutside.init runtime
        (combinerArgs ["a", "b"] "out" false [["gain", "double"]]) .new pairedSources =
          .error (some (gainLeft, pairedSources ++ [("out.gain", .double, 0)])) ∧
      ∃ c d, combinerOutside.init runtime (combinerArgs ["a", "b"] "out" false mixedLines) gainLeft
          (pairedSources ++ [("out.gain", .double, 0)]) = .ok (c, d) ∧
        c.numSources = 2 ∧ (∃ bin ∈ c.bins, bin.ids.length = 2) ∧
        ¬HoldsBatches combinerOutside runtime
          (combinerArgs ["a", "b"] "out" false mixedLines) c := by
  refine ⟨by decide +kernel, ?_⟩
  have hinit : (combinerOutside.init runtime (combinerArgs ["a", "b"] "out" false mixedLines)
      gainLeft (pairedSources ++ [("out.gain", .double, 0)])).toOption.map
        (fun made => (made.1.numSources, made.1.bins.head?)) =
          some (2, some ⟨none, [144, 128]⟩) := by
    decide +kernel
  obtain ⟨⟨c, d⟩, hsome, hmade⟩ := Option.map_eq_some_iff.1 hinit
  obtain ⟨hnum, hfirst⟩ := Prod.mk.inj hmade
  have hmem := List.mem_of_mem_head? (Option.mem_def.2 hfirst)
  refine ⟨c, d, to_option_eq_some.1 hsome, hnum, ⟨_, hmem, rfl⟩, fun hholds => ?_⟩
  have hdvd := hholds.1 _ hmem
  rw [SlateCombiner.stride, hnum] at hdvd
  exact absurd hdvd (by decide)

end Sample

end Codon.Slate
