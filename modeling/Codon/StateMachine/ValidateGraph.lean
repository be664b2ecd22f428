import Codon.StateMachine.Build

/-!
# What the check of the timeouts decides

`validate_graph` gives an answer for every graph of timeouts, and it accepts exactly the graphs
without a cycle of dangerous states: read `validate_graph_iff`. `Graph.lean` has one direction.
The other one needs to know what a state in progress means: its timeouts lead, through dangerous
states, to the state that is being searched. A search that runs into one has closed a cycle.
-/

namespace Codon.StateMachine

open Codon.Library

namespace Config

/-- Every state has an entry for the timeout command. What `init` builds satisfies this, see
`init_has_timeouts`. -/
structure HasTimeouts (c : Config) : Prop where
  name_eq : c.timeoutCmd.name = "timeout"
  index_lt : ∀ cs ∈ c.state, c.timeoutCmd.index < cs.cmds.length

/-- Following the timeouts from `s` leads back to `s`, through dangerous states only. -/
def OnDangerousCycle (c : Config) (allowSingleCycle : Bool) (s : Nat) : Prop :=
  Leads c.timeoutNext (fun t => c.isDangerous allowSingleCycle t = true) s s

/-- Every state in progress leads to the state that is searched next. -/
def InProgressLead (c : Config) (dangerous : List Nat) (colors : List Color) (stateIdx : Nat) :
    Prop :=
  ∀ s, colors[s]? = some .inProgress → Leads c.timeoutNext (· ∈ dangerous) s stateIdx

variable {c : Config} {dangerous : List Nat} {colors : List Color} {stateIdx : Nat}

/-- A dangerous state that is put in progress leads to the next one, and so do the others. -/
theorem InProgressLead.next (h : c.InProgressLead dangerous colors stateIdx)
    (hdanger : stateIdx ∈ dangerous) :
    c.InProgressLead dangerous (colors.set stateIdx .inProgress) (c.timeoutNext stateIdx) := by
  intro s hs
  rw [List.getElem?_set] at hs
  split_ifs at hs with heq
  · exact heq ▸ .of_inside hdanger
  · exact (h s hs).successor hdanger

/-- Putting an unexplored state in progress leaves one unexplored state less. -/
theorem count_set_in_progress (h : colors[stateIdx]? = some .unexplored) :
    (colors.set stateIdx .inProgress).count .unexplored + 1 = colors.count .unexplored := by
  obtain ⟨hlt, hcolor⟩ := List.getElem?_eq_some_iff.1 h
  have hpos : 0 < colors.count .unexplored := by
    rw [List.count_pos_iff, ← hcolor]
    exact List.getElem_mem hlt
  rw [List.count_set hlt, hcolor]
  simp only [beq_self_eq_true, if_true,
    show (Color.inProgress == Color.unexplored) = false from rfl]
  simp only [Bool.false_eq_true, if_false]
  omega

/-- What is asked of the colours when a search starts. -/
structure Searchable (c : Config) (dangerous : List Nat) (fuel : Nat) (colors : List Color)
    (stateIdx : Nat) : Prop where
  length_eq : colors.length = c.state.length
  unexplored : colors[stateIdx]? = some .unexplored
  fuel_lt : colors.count .unexplored < fuel
  leads : c.InProgressLead dangerous colors stateIdx

/-- What a search of a dangerous state does once its assertions have been checked. -/
theorem search_for_cycle_eq {fuel : Nat} {cycleDetected : Bool} (hc : c.HasTimeouts)
    (hlead : c.TimeoutsLead dangerous) (h : c.Searchable dangerous (fuel + 1) colors stateIdx)
    (hdanger : stateIdx ∈ dangerous) :
    c.searchForCycle dangerous (fuel + 1) colors cycleDetected stateIdx =
      ((colors.set stateIdx .inProgress)[c.timeoutNext stateIdx]?).bind fun
        | .inProgress => (fswAssert (c.timeoutNext stateIdx ∈ dangerous)).map fun _ =>
            ⟨true, colors.set stateIdx .inProgress, true⟩
        | .unexplored =>
            (c.searchForCycle dangerous fuel (colors.set stateIdx .inProgress) cycleDetected
              (c.timeoutNext stateIdx)).map fun inner =>
                if inner.ret then
                  ⟨true, inner.colors.set stateIdx .explored, inner.cycleDetected⟩
                else ⟨false, inner.colors, inner.cycleDetected⟩
        | .explored =>
            some ⟨true, (colors.set stateIdx .inProgress).set stateIdx .explored,
              cycleDetected⟩ := by
  obtain ⟨hlt, -⟩ := List.getElem?_eq_some_iff.1 h.unexplored
  have hstate : stateIdx < c.state.length := by rwa [← h.length_eq]
  have hindex := hc.index_lt _ (List.getElem_mem hstate)
  have hentry : c.state[stateIdx].cmds[c.timeoutCmd.index]? = some (c.timeoutNext stateIdx) := by
    rw [timeoutNext, entry_eq (List.getElem?_eq_getElem hstate),
      List.getElem?_eq_getElem hindex, Option.getD_some]
  simp only [searchForCycle, fswAssert, hlt, h.unexplored, hdanger, not_true_eq_false, hc.name_eq,
    List.getElem?_eq_getElem hstate, hentry, hlead stateIdx hdanger, if_true, if_false, bind,
    Option.bind_some, pure]
  congr 1
  funext color
  cases color with
  | inProgress => split_ifs <;> rfl
  | unexplored =>
      cases c.searchForCycle dangerous fuel (colors.set stateIdx .inProgress) cycleDetected
        (c.timeoutNext stateIdx) with
      | none => rfl
      | some inner => exact (apply_ite some _ _ _).symm
  | explored => rfl

/-- The search of the next state may start. -/
theorem Searchable.next {fuel : Nat} (h : c.Searchable dangerous (fuel + 1) colors stateIdx)
    (hdanger : stateIdx ∈ dangerous)
    (hcolor : (colors.set stateIdx .inProgress)[c.timeoutNext stateIdx]? = some .unexplored) :
    c.Searchable dangerous fuel (colors.set stateIdx .inProgress) (c.timeoutNext stateIdx) := by
  refine ⟨by rw [List.length_set, h.length_eq], hcolor, ?_, h.leads.next hdanger⟩
  have hcount := count_set_in_progress h.unexplored
  have hfuel := h.fuel_lt
  omega

/-- A search ends without a failed assertion, and a cycle that it reports is there. -/
theorem search_for_cycle_total {fuel : Nat} (cycleDetected : Bool) (hc : c.HasTimeouts)
    (hlead : c.TimeoutsLead dangerous) (h : c.Searchable dangerous fuel colors stateIdx) :
    ∃ found, c.searchForCycle dangerous fuel colors cycleDetected stateIdx = some found ∧
      found.ret = true ∧ found.colors.length = colors.length ∧
      (found.cycleDetected = true →
        cycleDetected = true ∨ ∃ s, Leads c.timeoutNext (· ∈ dangerous) s s) := by
  induction fuel generalizing colors cycleDetected stateIdx with
  | zero => exact absurd h.fuel_lt (Nat.not_lt_zero _)
  | succ fuel ih =>
      by_cases hdanger : stateIdx ∈ dangerous
      · rw [search_for_cycle_eq hc hlead h hdanger]
        have hleads := h.leads.next hdanger
        cases hcolor : (colors.set stateIdx .inProgress)[c.timeoutNext stateIdx]? with
        | none =>
            have hnext := hlead stateIdx hdanger
            rw [List.getElem?_eq_none_iff, List.length_set, h.length_eq] at hcolor
            omega
        | some color =>
            rw [Option.bind_some]
            cases color with
            | inProgress =>
                -- the next state is in progress, so it leads to itself
                obtain ⟨p, hp, -, hin⟩ := hleads _ hcolor
                have hmem : c.timeoutNext stateIdx ∈ dangerous := hin 0 hp
                simp only [fswAssert, hmem, if_true, Option.map_some]
                exact ⟨_, rfl, rfl, List.length_set, fun _ => .inr ⟨_, hleads _ hcolor⟩⟩
            | unexplored =>
                obtain ⟨inner, heq, hret, hlength, hreport⟩ :=
                  ih cycleDetected (h.next hdanger hcolor)
                simp only [heq, Option.map_some, hret, if_true]
                refine ⟨_, rfl, rfl, ?_, hreport⟩
                rw [List.length_set, hlength, List.length_set]
            | explored => exact ⟨_, rfl, rfl, by simp, .inl⟩
      · obtain ⟨hlt, -⟩ := List.getElem?_eq_some_iff.1 h.unexplored
        simp only [searchForCycle, fswAssert, hlt, h.unexplored, hdanger, not_false_eq_true,
          if_true, bind, Option.bind_some]
        exact ⟨_, rfl, rfl, List.length_set, .inl⟩

/-- The loop over the dangerous states ends without a failed assertion, and if it refuses, there is
a cycle. -/
theorem explore_all_total (todo : List Nat) (hc : c.HasTimeouts)
    (hlead : c.TimeoutsLead dangerous) (hlength : colors.length = c.state.length)
    (htodo : ∀ s ∈ todo, s < c.state.length)
    (hidle : ∀ s : Nat, colors[s]? ≠ some Color.inProgress) :
    ∃ valid, c.exploreAll dangerous todo colors = some valid ∧
      (valid = false → ∃ s, Leads c.timeoutNext (· ∈ dangerous) s s) := by
  induction todo generalizing colors with
  | nil => exact ⟨true, rfl, nofun⟩
  | cons stateIdx rest ih =>
      rw [List.forall_mem_cons] at htodo
      have hlt : stateIdx < colors.length := by
        rw [hlength]
        exact htodo.1
      simp only [exploreAll, fswAssert, hlt, if_true, bind, Option.bind_some]
      split_ifs with hcolor
      · have hsearch : c.Searchable dangerous (c.state.length + 1) colors stateIdx := by
          refine ⟨hlength, hcolor, ?_, fun s hs => absurd hs (hidle s)⟩
          rw [← hlength]
          exact Nat.lt_succ_of_le List.count_le_length
        obtain ⟨found, hfound, hret, hlength', hreport⟩ :=
          search_for_cycle_total false hc hlead hsearch
        simp only [hfound, Option.bind_some, hret, if_true]
        cases hcycle : found.cycleDetected with
        | true =>
            refine ⟨false, rfl, fun _ => ?_⟩
            exact (hreport hcycle).resolve_left Bool.false_ne_true
        | false =>
            rw [if_neg Bool.false_ne_true]
            refine ih (hlength'.trans hlength) htodo.2 fun s hs => hidle s ?_
            exact search_for_cycle_in_progress hlead hfound hret hcycle hs
      · exact ih hlength htodo.2 hidle

/-- `validate_graph` terminates without a failed assertion, and it accepts a graph of timeouts if
and only if no cycle of the graph consists of dangerous states. -/
theorem validate_graph_iff (allowSingleCycle : Bool) (hc : c.HasTimeouts) :
    ∃ valid, c.validateGraph allowSingleCycle = some valid ∧
      (valid = true ↔ ¬∃ s, c.OnDangerousCycle allowSingleCycle s) := by
  have hlead := c.timeouts_lead allowSingleCycle
  have hcycle (s : Nat) : c.OnDangerousCycle allowSingleCycle s ↔
      Leads c.timeoutNext (· ∈ c.dangerousStates allowSingleCycle) s s := by
    simp only [OnDangerousCycle, Leads, mem_dangerous_states]
  have hlength : (List.replicate c.state.length Color.unexplored).length = c.state.length :=
    List.length_replicate
  obtain ⟨valid, hexplore, hrefuse⟩ := explore_all_total (c.dangerousStates allowSingleCycle)
    hc hlead hlength
    (fun s hs => List.mem_range.1 (List.mem_filter.1 hs).1)
    (fun s => by simp [List.getElem?_replicate])
  have hvalidate : c.validateGraph allowSingleCycle = some valid := by
    have hindex : ∀ cs ∈ c.state, c.timeoutCmd.index < cs.cmds.length := hc.index_lt
    simp only [validateGraph, fswAssert, hc.name_eq, if_true, if_pos hindex, bind,
      Option.bind_some, hexplore]
  refine ⟨valid, hvalidate, fun haccept => ?_, fun hnone => ?_⟩
  · rintro ⟨s, hs⟩
    rw [haccept] at hvalidate
    exact ((hcycle s).1 hs).not_escapes (validate_graph_escapes hvalidate s)
  · by_contra hfalse
    obtain ⟨s, hs⟩ := hrefuse (Bool.eq_false_of_not_eq_true hfalse)
    exact hnone ⟨s, (hcycle s).2 hs⟩

end Config

/-- `finalize_state_from_file` has checked the name of the timeout command and has looked up its
entry. -/
theorem Inputs.build_state_timeout {inp : Inputs} {flavor : Flavor} {timeoutCmd : VehicleCmd}
    {name : String} {cs : ControlState}
    (h : inp.buildState flavor timeoutCmd name = some cs) :
    timeoutCmd.name = "timeout" ∧ timeoutCmd.index < cs.cmds.length := by
  simp only [buildState, finalizeStateFromFile, bind, pure, Option.bind_eq_some_iff,
    fsw_assert_eq_some, exists_const] at h
  obtain ⟨seqs, -, runAlarm, -, parsed, -, hname, target, htarget, h⟩ := h
  split_ifs at h
  cases h
  exact ⟨hname, (List.getElem?_eq_some_iff.1 htarget).1⟩

/-- A built machine has timeouts. -/
theorem init_has_timeouts {flavor : Flavor} {inp : Inputs} {c : Config}
    (h : init flavor inp = some c) : c.HasTimeouts := by
  obtain ⟨-, hstate, -⟩ := init_cases h
  have hall := mapM_answers hstate
  have hbuilt (i : Nat) (hi : i < c.state.length) :
      c.timeoutCmd.name = "timeout" ∧ c.timeoutCmd.index < c.state[i].cmds.length :=
    Inputs.build_state_timeout (hall.get (by rwa [hall.length_eq]) hi)
  refine ⟨(hbuilt 0 (init_valid h).state_pos).1, fun cs hcs => ?_⟩
  obtain ⟨i, hi, rfl⟩ := List.getElem_of_mem hcs
  exact (hbuilt i hi).2

namespace Sample

/-- The timeouts of the sample machine have no dangerous cycle. -/
theorem sample_graph_valid :
    ∃ valid, (config .sync).validateGraph false = some valid ∧
      (valid = true ↔ ¬∃ s, (config .sync).OnDangerousCycle false s) :=
  Config.validate_graph_iff false (init_has_timeouts (init_eq .sync))

end Sample

end Codon.StateMachine
