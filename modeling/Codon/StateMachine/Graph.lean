import Codon.Library.Walk
import Codon.StateMachine.Config

/-!
# The check that no states time out into each other for ever

`StateMachine::validate_graph` and `search_for_cycle`. A state is dangerous when its
event sequences end within the transition period and its timeout leads to a state.
`validate_graph` refuses a graph with a cycle of dangerous states. What the runtime
results need is `validate_graph_escapes`: when the check succeeds, following the
timeouts from any dangerous state leads out of the dangerous states.
-/

namespace Codon.StateMachine

open Codon.Library

/-- The colours of the depth-first search. -/
inductive Color where
  | unexplored
  | inProgress
  | explored
deriving DecidableEq

namespace Config

/-- The state that `s` times out into. For a dangerous state it is a state number. -/
def timeoutNext (c : Config) (s : Nat) : Nat :=
  (c.entry s c.timeoutCmd.index).getD undefinedState

/-- The test by which `validate_graph` collects the dangerous states. -/
def isDangerous (c : Config) (allowSingleCycle : Bool) (s : Nat) : Bool :=
  match c.state[s]? with
  | none => false
  | some cs =>
      !cs.seqs.isEmpty &&
        (decide (cs.duration < c.transitionPeriod) ||
          (!allowSingleCycle && cs.duration == c.transitionPeriod)) &&
        decide (c.timeoutNext s < c.state.length)

/-- `dangerous_states`, in the order in which the set iterates. -/
def dangerousStates (c : Config) (allowSingleCycle : Bool) : List Nat :=
  (List.range c.state.length).filter (c.isDangerous allowSingleCycle)

/-- What a search leaves behind: its return value, the colours and `cycle_detected`. -/
structure Search where
  ret : Bool
  colors : List Color
  cycleDetected : Bool

/-- `StateMachine::search_for_cycle`. Each nested search colours one more state, so a fuel of
the number of states plus one is never used up. -/
def searchForCycle (c : Config) (dangerous : List Nat) :
    Nat → List Color → Bool → Nat → Option Search
  | 0, _, _, _ => none
  | fuel + 1, colors, cycleDetected, stateIdx => do
      fswAssert (stateIdx < colors.length)
      fswAssert (colors[stateIdx]? = some .unexplored)
      if stateIdx ∉ dangerous then
        return ⟨true, colors.set stateIdx .explored, cycleDetected⟩
      let colors := colors.set stateIdx .inProgress
      fswAssert (c.timeoutCmd.name = "timeout")
      let cs ← c.state[stateIdx]?
      let nextStateIdx ← cs.cmds[c.timeoutCmd.index]?
      if nextStateIdx < c.state.length then
        match ← colors[nextStateIdx]? with
        | .inProgress =>
            fswAssert (nextStateIdx ∈ dangerous)
            return ⟨true, colors, true⟩
        | .unexplored =>
            let inner ← c.searchForCycle dangerous fuel colors cycleDetected nextStateIdx
            if inner.ret then
              return ⟨true, inner.colors.set stateIdx .explored, inner.cycleDetected⟩
            else
              return ⟨false, inner.colors, inner.cycleDetected⟩
        | .explored => return ⟨true, colors.set stateIdx .explored, cycleDetected⟩
      else
        return ⟨true, colors.set stateIdx .explored, cycleDetected⟩

/-- The loop of `validate_graph` over the dangerous states. -/
def exploreAll (c : Config) (dangerous : List Nat) : List Nat → List Color → Option Bool
  | [], _ => some true
  | stateIdx :: rest, colors => do
      fswAssert (stateIdx < colors.length)
      if colors[stateIdx]? = some .unexplored then
        let found ← c.searchForCycle dangerous (c.state.length + 1) colors false stateIdx
        if found.ret then
          if found.cycleDetected then return false
          else c.exploreAll dangerous rest found.colors
        else return false
      else c.exploreAll dangerous rest colors

/-- `StateMachine::validate_graph`. -/
def validateGraph (c : Config) (allowSingleCycle : Bool) : Option Bool := do
  fswAssert (c.timeoutCmd.name = "timeout")
  fswAssert (∀ cs ∈ c.state, c.timeoutCmd.index < cs.cmds.length)
  let dangerous := c.dangerousStates allowSingleCycle
  c.exploreAll dangerous dangerous (List.replicate c.state.length .unexplored)

/-- Following the timeouts from `s` leads out of the listed states. -/
abbrev LeavesDanger (c : Config) (dangerous : List Nat) (s : Nat) : Prop :=
  Escapes c.timeoutNext (· ∈ dangerous) s

/-- What the search keeps true of the colours: an explored state leads out of danger. -/
def ExploredEscape (c : Config) (dangerous : List Nat) (colors : List Color) : Prop :=
  ∀ s, colors[s]? = some .explored → c.LeavesDanger dangerous s

/-- Marking a state in progress keeps the explored ones explored. -/
theorem ExploredEscape.set_in_progress {c : Config} {dangerous : List Nat} {colors : List Color}
    (h : c.ExploredEscape dangerous colors) (s : Nat) :
    c.ExploredEscape dangerous (colors.set s .inProgress) := by
  intro t ht
  rw [List.getElem?_set] at ht
  split_ifs at ht with heq
  · cases ht
  · exact h t ht

/-- A state that leaves danger may be marked explored. -/
theorem ExploredEscape.set_explored {c : Config} {dangerous : List Nat} {colors : List Color}
    (h : c.ExploredEscape dangerous colors) {s : Nat} (hs : c.LeavesDanger dangerous s) :
    c.ExploredEscape dangerous (colors.set s .explored) := by
  intro t ht
  rw [List.getElem?_set] at ht
  split_ifs at ht with heq
  · exact heq ▸ hs
  · exact h t ht

/-- A state in progress is not the one just explored. -/
theorem in_progress_of_set_explored {colors : List Color} {s t : Nat}
    (h : (colors.set s .explored)[t]? = some .inProgress) :
    s ≠ t ∧ colors[t]? = some .inProgress := by
  rw [List.getElem?_set] at h
  split_ifs at h with heq
  · cases h
  · exact ⟨heq, h⟩

/-- The listed states time out into a state. -/
def TimeoutsLead (c : Config) (dangerous : List Nat) : Prop :=
  ∀ s ∈ dangerous, c.timeoutNext s < c.state.length

/-- What a search that met no cycle did: it stopped at a state that is not dangerous, or it
found the next state explored, or it explored the next state. Either way it ended by colouring
its start explored. -/
theorem search_for_cycle_cases {c : Config} {dangerous : List Nat} {fuel : Nat}
    {colors : List Color} {cycleDetected : Bool} {stateIdx : Nat} {found : Search}
    (hlead : c.TimeoutsLead dangerous)
    (h : c.searchForCycle dangerous (fuel + 1) colors cycleDetected stateIdx = some found)
    (hret : found.ret) (hcycle : found.cycleDetected = false) :
    ∃ before, found.colors = before.set stateIdx .explored ∧
      (stateIdx ∉ dangerous ∧ before = colors ∨
        before = colors.set stateIdx .inProgress ∧
          before[c.timeoutNext stateIdx]? = some .explored ∨
        ∃ inner, c.searchForCycle dangerous fuel (colors.set stateIdx .inProgress) cycleDetected
            (c.timeoutNext stateIdx) = some inner ∧
          inner.ret ∧ inner.cycleDetected = false ∧ before = inner.colors) := by
  simp only [searchForCycle, bind, Option.bind_eq_some_iff, fsw_assert_eq_some,
    exists_const, pure] at h
  obtain ⟨-, -, h⟩ := h
  by_cases hdanger : stateIdx ∈ dangerous
  · rw [if_neg (not_not_intro hdanger)] at h
    simp only [Option.bind_eq_some_iff, fsw_assert_eq_some, exists_const] at h
    obtain ⟨-, cs, hcs, nextStateIdx, hentry, h⟩ := h
    have hnext : c.timeoutNext stateIdx = nextStateIdx := by
      simp [timeoutNext, entry_eq hcs, hentry]
    rw [if_pos (hnext ▸ hlead _ hdanger)] at h
    obtain ⟨timeoutColor, hcolor, h⟩ := Option.bind_eq_some_iff.1 h
    rw [hnext]
    cases timeoutColor with
    | inProgress =>
        -- the search ran into itself, so it reports a cycle
        obtain ⟨-, -, h⟩ := Option.bind_eq_some_iff.1 h
        cases h
        cases hcycle
    | unexplored =>
        obtain ⟨inner, hinner, h⟩ := Option.bind_eq_some_iff.1 h
        split_ifs at h with hok
        · cases h
          exact ⟨_, rfl, .inr (.inr ⟨inner, hinner, hok, hcycle, rfl⟩)⟩
        · cases h
          cases hret
    | explored =>
        cases h
        exact ⟨_, rfl, .inr (.inl ⟨rfl, hcolor⟩)⟩
  · rw [if_pos hdanger] at h
    cases h
    exact ⟨_, rfl, .inl ⟨hdanger, rfl⟩⟩

/-- A search that meets no cycle keeps `ExploredEscape`, and its start leads out of danger. -/
theorem search_for_cycle_escapes {c : Config} {dangerous : List Nat} {fuel : Nat}
    {colors : List Color} {cycleDetected : Bool} {stateIdx : Nat} {found : Search}
    (hlead : c.TimeoutsLead dangerous) (hinv : c.ExploredEscape dangerous colors)
    (h : c.searchForCycle dangerous fuel colors cycleDetected stateIdx = some found)
    (hret : found.ret) (hcycle : found.cycleDetected = false) :
    c.ExploredEscape dangerous found.colors ∧ c.LeavesDanger dangerous stateIdx := by
  induction fuel generalizing colors cycleDetected stateIdx found with
  | zero => simp [searchForCycle] at h
  | succ fuel ih =>
      obtain ⟨before, hcolors, hcases⟩ := search_for_cycle_cases hlead h hret hcycle
      have hinv' := hinv.set_in_progress stateIdx
      have hself : c.LeavesDanger dangerous stateIdx ∧ c.ExploredEscape dangerous before := by
        rcases hcases with ⟨hsafe, rfl⟩ | ⟨rfl, hnext⟩ | ⟨inner, hinner, hok, hnone, rfl⟩
        · exact ⟨.of_not hsafe, hinv⟩
        · exact ⟨.of_successor (hinv' _ hnext), hinv'⟩
        · obtain ⟨hafter, hleaves⟩ := ih hinv' hinner hok hnone
          exact ⟨.of_successor hleaves, hafter⟩
      rw [hcolors]
      exact ⟨hself.2.set_explored hself.1, hself.1⟩

/-- A search that meets no cycle leaves no state in progress that was not so before. -/
theorem search_for_cycle_in_progress {c : Config} {dangerous : List Nat} {fuel : Nat}
    {colors : List Color} {cycleDetected : Bool} {stateIdx : Nat} {found : Search}
    (hlead : c.TimeoutsLead dangerous)
    (h : c.searchForCycle dangerous fuel colors cycleDetected stateIdx = some found)
    (hret : found.ret) (hcycle : found.cycleDetected = false) {t : Nat}
    (ht : found.colors[t]? = some .inProgress) : colors[t]? = some .inProgress := by
  induction fuel generalizing colors cycleDetected stateIdx found with
  | zero => simp [searchForCycle] at h
  | succ fuel ih =>
      obtain ⟨before, hcolors, hcases⟩ := search_for_cycle_cases hlead h hret hcycle
      rw [hcolors] at ht
      obtain ⟨hne, hbefore⟩ := in_progress_of_set_explored ht
      rcases hcases with ⟨-, rfl⟩ | ⟨rfl, -⟩ | ⟨inner, hinner, hok, hnone, rfl⟩
      · exact hbefore
      · rwa [List.getElem?_set_ne hne] at hbefore
      · have hstart := ih hinner hok hnone hbefore
        rwa [List.getElem?_set_ne hne] at hstart

/-- When the loop of `validate_graph` accepts, every state it was given leads out of danger. -/
theorem explore_all_escapes {c : Config} {dangerous : List Nat} (hlead : c.TimeoutsLead dangerous)
    {todo : List Nat} {colors : List Color} (hinv : c.ExploredEscape dangerous colors)
    (hidle : ∀ s : Nat, colors[s]? ≠ some Color.inProgress)
    (h : c.exploreAll dangerous todo colors = some true) :
    ∀ s ∈ todo, c.LeavesDanger dangerous s := by
  induction todo generalizing colors with
  | nil => simp
  | cons stateIdx rest ih =>
      simp only [exploreAll, bind, Option.bind_eq_some_iff, fsw_assert_eq_some,
        exists_const] at h
      obtain ⟨hlt, h⟩ := h
      rw [List.forall_mem_cons]
      split_ifs at h with hcolor
      · obtain ⟨found, hfound, h⟩ := Option.bind_eq_some_iff.1 h
        split_ifs at h with hret hcycle
        · cases h
        · have hnone : found.cycleDetected = false := by simpa using hcycle
          obtain ⟨hafter, hleaves⟩ := search_for_cycle_escapes hlead hinv hfound hret hnone
          refine ⟨hleaves, ih hafter (fun s hs => hidle s ?_) h⟩
          exact search_for_cycle_in_progress hlead hfound hret hnone hs
        · cases h
      · refine ⟨?_, ih hinv hidle h⟩
        -- neither unexplored nor in progress: an earlier search explored it
        have hsome : colors[stateIdx]? = some colors[stateIdx] := List.getElem?_eq_getElem hlt
        refine hinv stateIdx (hsome.trans (congrArg some ?_))
        cases hc : colors[stateIdx] with
        | unexplored => exact absurd (hsome.trans (congrArg some hc)) hcolor
        | inProgress => exact absurd (hsome.trans (congrArg some hc)) (hidle stateIdx)
        | explored => rfl

/-- The list of dangerous states holds the dangerous ones. -/
theorem mem_dangerous_states {c : Config} {allowSingleCycle : Bool} {s : Nat} :
    s ∈ c.dangerousStates allowSingleCycle ↔ c.isDangerous allowSingleCycle s := by
  simp only [dangerousStates, List.mem_filter, List.mem_range, and_iff_right_iff_imp]
  intro h
  by_contra hge
  rw [isDangerous, List.getElem?_eq_none (by omega)] at h
  cases h

/-- A state is dangerous when it can time out too soon into another. -/
theorem is_dangerous_iff {c : Config} {allowSingleCycle : Bool} {s : Nat} :
    c.isDangerous allowSingleCycle s ↔
      ∃ cs, c.state[s]? = some cs ∧ cs.seqs ≠ [] ∧
        (cs.duration < c.transitionPeriod ∨
          allowSingleCycle = false ∧ cs.duration = c.transitionPeriod) ∧
        c.timeoutNext s < c.state.length := by
  unfold isDangerous
  cases c.state[s]? <;> simp [and_assoc]

/-- The timeout of a dangerous state leads to a state of the machine. -/
theorem timeouts_lead (c : Config) (allowSingleCycle : Bool) :
    c.TimeoutsLead (c.dangerousStates allowSingleCycle) := by
  intro s hs
  obtain ⟨_, _, _, _, hlt⟩ := is_dangerous_iff.1 (mem_dangerous_states.1 hs)
  exact hlt

/-- When `validate_graph` accepts, following the timeouts from any state leads out of the
dangerous states. -/
theorem validate_graph_escapes {c : Config} {allowSingleCycle : Bool}
    (h : c.validateGraph allowSingleCycle = some true) (s : Nat) :
    c.LeavesDanger (c.dangerousStates allowSingleCycle) s := by
  by_cases hs : s ∈ c.dangerousStates allowSingleCycle
  · simp only [validateGraph, bind, Option.bind_eq_some_iff, fsw_assert_eq_some,
      exists_const] at h
    refine explore_all_escapes (c.timeouts_lead _) ?_ ?_ h.2.2 s hs <;>
      · intro t
        simp [List.getElem?_replicate]
  · exact .of_not hs

end Config

end Codon.StateMachine
