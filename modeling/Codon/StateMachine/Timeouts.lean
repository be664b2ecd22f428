import Mathlib.Order.Interval.Finset.Nat
import Codon.StateMachine.Dispatch

/-!
# States that time out one after the other

What the two results about timeouts share: what is assumed of `ControlState`
(`Config.SeqsTimed`), and how far a machine can get by following the timeouts of
dangerous states when `validate_graph` has accepted the graph (`chases_lt_length`).
-/

namespace Codon.StateMachine

open Codon.Library

/-- Outside code that issues no command. -/
def Environment.Silent (env : Environment) : Prop := ∀ cb, (env cb).cmds = []

/-- A silent environment offers no command. -/
theorem Environment.Silent.offers {env : Environment} (h : env.Silent) (cbs : List Callback) :
    env.offers cbs = [] := by
  unfold Environment.offers
  rw [List.flatMap_eq_nil_iff]
  intro cb _
  rw [h cb, List.map_nil]

/-! ## Accepted commands -/

namespace Stretch

variable {c : Config} {m m' : Machine} {d : List Event} {cbs : List Callback} {cmds : List Issue}

/-- A command that becomes pending in a stretch has an accepting line in the trace. -/
theorem acceptance_mem (h : Stretch c m m' d cbs cmds) (hfree : m.slate.pendingCmdIndex = c.noop)
    (hbusy : m'.slate.pendingCmdIndex ≠ c.noop) :
    ∃ issue verdict left, .command issue verdict left ∈ d ∧
      (c.acceptance (.command issue verdict left)).isSome := by
  rw [h.pending_eq] at hbusy
  obtain ⟨x, hx⟩ := Config.hear_goes hfree hbusy
  have hafter : c.outstanding m'.slate = some ((c.hear m.slate cmds).pendingCmdIndex, x) := by
    rw [h.outstanding_eq, Config.outstanding, if_neg hbusy, Config.hear_cur_state, hx.entry_eq]
    rfl
  have hbalance := h.settles.balance
  rw [hafter, show c.outstanding m.slate = none from if_pos hfree] at hbalance
  have hasked : ((c.hear m.slate cmds).pendingCmdIndex, x) ∈ requests (c.ledger d) := by
    rw [Option.toList_none, List.nil_append] at hbalance
    rw [hbalance]
    simp
  simp only [requests, Config.ledger, List.mem_filterMap] at hasked
  obtain ⟨entry, ⟨ev, hev, hentry⟩, hrequest⟩ := hasked
  cases ev with
  | callback cb seen => cases hentry
  | command issue verdict left =>
      refine ⟨issue, verdict, left, hev, ?_⟩
      obtain ⟨asked, hasked, -⟩ := Option.map_eq_some_iff.1 hentry
      rw [hasked]
      rfl
  | stateSet cmdIndex target =>
      cases hentry
      cases hrequest

/-- What an accepting line says: the command is a transition in the state of the stretch, its
nominal time has passed the assertions, and it is the one that is pending at the end. -/
theorem of_acceptance (h : Stretch c m m' d cbs cmds) {issue : Issue} {verdict : Verdict}
    {left : SlateElements} (hev : .command issue verdict left ∈ d)
    (haccept : (c.acceptance (.command issue verdict left)).isSome) :
    (c.leadsTo m.slate.curState issue.call.cmd).isSome ∧
      m'.slate.pendingCmdIndex = issue.call.cmd.index ∧
      m'.slate.nominalTransitionTime = c.nominalTime issue.call.controlTime ∧
      issue.call.controlTime - c.transitionPeriod < c.nominalTime issue.call.controlTime ∧
      c.nominalTime issue.call.controlTime ≤ issue.call.controlTime := by
  obtain ⟨haccepted, x, hx⟩ : verdict.response = .accept ∧
      ∃ x, c.leadsTo left.curState issue.call.cmd = some x := by
    simp only [Config.acceptance] at haccept
    split_ifs at haccept with haccepted
    · exact ⟨haccepted, Option.isSome_iff_exists.1 (by simpa using haccept)⟩
    · cases haccept
  obtain ⟨e, hcur, hhandle⟩ := h.commanded issue verdict left hev
  rcases Config.handle_cmd_cases hhandle with
    ⟨-, hleads, hlate, hearly, -, rfl⟩ | ⟨hnone, hdefer, rfl⟩
  · obtain ⟨heard, time, ⟨rest, rfl⟩, hshown⟩ := h.shown _ hev _ rfl
    have hbusy : (c.hear m.slate heard).pendingCmdIndex ≠ c.noop := by
      have hpending := congrArg SlateElements.pendingCmdIndex hshown
      exact hpending ▸ (Config.leads_to_eq_some.1 hx).1.2.2
    obtain ⟨time', hslate⟩ := h.slate_eq
    rw [Config.hear_append, Config.hear_of_busy hbusy] at hslate
    refine ⟨hcur ▸ hleads, ?_, ?_, hlate, hearly⟩
    · rw [hslate]
      exact (congrArg SlateElements.pendingCmdIndex hshown).symm
    · rw [hslate]
      exact (congrArg SlateElements.nominalTransitionTime hshown).symm
  · by_cases hfree : left.pendingCmdIndex = c.noop
    · rw [hnone hfree] at hx
      cases hx
    · exact absurd (hdefer hfree) (by rw [haccepted]; decide)

/-- The command of a line of the trace is one of those that are handled. -/
theorem issue_mem (h : Stretch c m m' d cbs cmds) {issue : Issue} {verdict : Verdict}
    {left : SlateElements} (hev : .command issue verdict left ∈ d) : issue ∈ cmds := by
  rw [← h.handled_eq]
  exact List.mem_filterMap.2 ⟨_, hev, rfl⟩

end Stretch

namespace Config

variable {c : Config} {env : Environment} {m m' : Machine}

/-- Handling the pending command either leaves the state alone or moves to the state that the
command leads to, once. -/
theorem Changes.moved {transitionTime : Int} {pre post start : Bool} {d : List Event}
    (h : Changes c env transitionTime pre post start m m' d) :
    (transitionTime = nanoTMax ∨
        (c.verbose ∧ c.cmdTable.lookupIndex m.slate.pendingCmdIndex = none) ∨
        ∀ x, ¬c.Goes m.slate.curState m.slate.pendingCmdIndex x) ∧
      m'.slate.curState = m.slate.curState ∧ stateSets d = [] ∨
    ∃ x ncs, c.Goes m.slate.curState m.slate.pendingCmdIndex x ∧ c.state[x]? = some ncs ∧
      m'.slate.curState = x ∧ stateSets d = [(m.slate.pendingCmdIndex, x)] ∧
      calledBack d =
        c.setStateCalls m.slate.curState x ncs transitionTime pre post start ++ [.stateSig x] := by
  cases h with
  | dropped hbad => exact .inl ⟨hbad, rfl, rfl⟩
  | @carried x ncs m₁ m₂ d₁ d₂ hgoes hncs hbefore hafter =>
      have hcons : d₁ ++ .stateSet m.slate.pendingCmdIndex x :: d₂ =
          d₁ ++ [.stateSet m.slate.pendingCmdIndex x] ++ d₂ := by simp
      refine .inr ⟨x, ncs, hgoes, hncs, hafter.cur_state_eq, ?_, ?_⟩
      · rw [hcons, state_sets_append, state_sets_append, hbefore.state_sets, hafter.state_sets]
        rfl
      · rw [hcons, called_back_append, called_back_append, hbefore.called, hafter.called,
          show calledBack [.stateSet m.slate.pendingCmdIndex x] = [] from rfl, List.append_nil]

end Config

/-! ## Starts of event sequences -/

/-- The time of a call of `start_seqs` for state `s`. -/
def Callback.startOf? (s : Nat) : Callback → Option Int
  | .startSeqs _ state transitionTime => if state = s then some transitionTime else none
  | _ => none

/-- The times that the event sequences of state `s` were started at. -/
def startsOf (s : Nat) (cbs : List Callback) : List Int := cbs.filterMap (Callback.startOf? s)

/-- The time that the event sequences of state `s` were last started at. -/
def lastStart (s : Nat) (cbs : List Callback) : Option Int := (startsOf s cbs).getLast?

@[simp] theorem starts_of_append (s : Nat) (cbs cbs' : List Callback) :
    startsOf s (cbs ++ cbs') = startsOf s cbs ++ startsOf s cbs' := List.filterMap_append

@[simp] theorem starts_of_transition_calls (s : Nat) (phase : Phase) (transitionTime : Int)
    (cs : ControlState) (tasks : List Nat) :
    startsOf s (transitionCalls phase transitionTime cs tasks) = [] := by
  rw [startsOf, transitionCalls, List.filterMap_filterMap, List.filterMap_eq_nil_iff]
  intro i _
  cases cs.tasks[i]? <;> rfl

@[simp] theorem starts_of_dispatch_calls (s : Nat) (env : Environment) (controlTime : Int)
    (tasks : List Nat) : startsOf s (dispatchCalls env controlTime tasks) = [] := by
  rw [startsOf, dispatchCalls, List.filterMap_flatMap, List.flatMap_eq_nil_iff]
  intro i _
  split_ifs <;> rfl

/-- Callbacks that start no event sequence leave the last start alone. -/
theorem last_start_append {s : Nat} {cbs cbs' : List Callback} (h : startsOf s cbs' = []) :
    lastStart s (cbs ++ cbs') = lastStart s cbs := by
  rw [lastStart, starts_of_append, h, List.append_nil, lastStart]

/-- A start is the last one when none follows. -/
theorem last_start_start {s : Nat} {cbs cbs' : List Callback} {transitionTime : Int}
    (h : startsOf s cbs' = []) (phase : Phase) :
    lastStart s (cbs ++ .startSeqs phase s transitionTime :: cbs') = some transitionTime := by
  have hstart : startsOf s (.startSeqs phase s transitionTime :: cbs') =
      transitionTime :: startsOf s cbs' := by simp [startsOf, Callback.startOf?]
  rw [lastStart, starts_of_append, hstart, h, List.getLast?_append_cons]
  rfl

namespace Config

/-- Whether the event sequences of state `s` have ended at `controlTime`, given the callbacks made
so far: the time has reached their start plus their duration. -/
def HasEnded (c : Config) (past : List Callback) (s : Nat) (controlTime : Int) : Prop :=
  ∃ start ∈ lastStart s past, ∃ cs ∈ c.state[s]?, start + cs.duration ≤ controlTime

instance (c : Config) (past : List Callback) (s : Nat) (controlTime : Int) :
    Decidable (c.HasEnded past s controlTime) :=
  inferInstanceAs (Decidable (∃ start ∈ lastStart s past, ∃ cs ∈ c.state[s]?, _))

/-- What `ControlState::dispatch_seqs` promises when it is called after the callbacks `past`: it
returns `nano_t_max` exactly when the event sequences have ended. -/
def Answered (c : Config) (env : Environment) (past : List Callback) : Callback → Prop
  | .dispatchSeqs phase s controlTime =>
      (env (.dispatchSeqs phase s controlTime)).time = nanoTMax ↔ c.HasEnded past s controlTime
  | _ => True

/-- The promise holds throughout an operation that makes the callbacks `cbs`. -/
def SeqsTimed (c : Config) (env : Environment) : List Callback → List Callback → Prop
  | _, [] => True
  | past, cb :: cbs => c.Answered env past cb ∧ SeqsTimed c env (past ++ [cb]) cbs

/-- The event sequences of a step are timed. -/
def StepTimed (c : Config) (s : Step) : Prop :=
  match s.op with
  | .dispatch _ env =>
      c.SeqsTimed env (calledBack s.before.trace)
        (calledBack (s.after.trace.drop s.before.trace.length))
  | _ => True

instance (c : Config) (env : Environment) (past : List Callback) (cb : Callback) :
    Decidable (c.Answered env past cb) :=
  match cb with
  | .dispatchSeqs phase s controlTime =>
      inferInstanceAs (Decidable
        ((env (.dispatchSeqs phase s controlTime)).time = nanoTMax ↔
          c.HasEnded past s controlTime))
  | .isActive _ | .dispatch _ _ | .transition _ _ _ _ | .endSeqs _ | .startSeqs _ _ _ |
    .stateSig _ => .isTrue trivial

instance decidableSeqsTimed (c : Config) (env : Environment) :
    (past cbs : List Callback) → Decidable (c.SeqsTimed env past cbs)
  | _, [] => .isTrue trivial
  | past, cb :: cbs =>
      have := decidableSeqsTimed c env (past ++ [cb]) cbs
      inferInstanceAs (Decidable (c.Answered env past cb ∧ c.SeqsTimed env (past ++ [cb]) cbs))

instance (c : Config) (s : Step) : Decidable (c.StepTimed s) :=
  match s with
  | ⟨before, .dispatch _ env, after⟩ =>
      inferInstanceAs (Decidable (c.SeqsTimed env (calledBack before.trace)
        (calledBack (after.trace.drop before.trace.length))))
  | ⟨_, .command _, _⟩ | ⟨_, .forceState _ _ _ _, _⟩ => .isTrue trivial

/-- `Chases c single s k`: the `k` states after `s` along the timeouts are states that a command
can lead to, and all of them but the last are dangerous. -/
def Chases (c : Config) (allowSingleCycle : Bool) (s k : Nat) : Prop :=
  ∀ i < k, (0 < c.timeoutNext^[i + 1] s ∧ c.timeoutNext^[i + 1] s < c.state.length) ∧
    (i + 1 < k → c.isDangerous allowSingleCycle (c.timeoutNext^[i + 1] s))

variable {c : Config} {env : Environment} {allowSingleCycle : Bool}

/-- At each dispatch of the sequences, their time says whether they have ended. -/
theorem SeqsTimed.at {past before after : List Callback} {phase : Phase} {s : Nat}
    {controlTime : Int}
    (h : c.SeqsTimed env past (before ++ .dispatchSeqs phase s controlTime :: after)) :
    (env (.dispatchSeqs phase s controlTime)).time = nanoTMax ↔
      c.HasEnded (past ++ before) s controlTime := by
  induction before generalizing past with
  | nil =>
      rw [List.append_nil]
      exact h.1
  | cons cb before ih =>
      rw [ih h.2, List.append_assoc]
      rfl

/-- Every state chases zero steps. -/
theorem Chases.zero (s : Nat) : c.Chases allowSingleCycle s 0 :=
  fun i hi => absurd hi (Nat.not_lt_zero i)

/-- One more state in front. -/
theorem Chases.succ {s k : Nat} (hpos : 0 < c.timeoutNext s)
    (hlt : c.timeoutNext s < c.state.length)
    (hdangerous : 0 < k → c.isDangerous allowSingleCycle (c.timeoutNext s))
    (h : c.Chases allowSingleCycle (c.timeoutNext s) k) :
    c.Chases allowSingleCycle s (k + 1) := by
  intro i hi
  cases i with
  | zero => exact ⟨⟨hpos, hlt⟩, fun hk => hdangerous (by omega)⟩
  | succ i =>
      obtain ⟨hstate, hrest⟩ := h i (by omega)
      rw [Function.iterate_succ_apply]
      exact ⟨hstate, fun hk => hrest (by omega)⟩

/-- When `validate_graph` has accepted, timeouts lead through fewer states than there are. -/
theorem chases_lt_length (hgraph : c.validateGraph allowSingleCycle = some true) (hc : c.Valid)
    {s k : Nat} (h : c.Chases allowSingleCycle s k) : k < c.state.length := by
  cases k with
  | zero => exact hc.state_pos
  | succ k =>
      have hiterate (i : Nat) :
          c.timeoutNext^[i] (c.timeoutNext s) = c.timeoutNext^[i + 1] s :=
        (Function.iterate_succ_apply _ _ _).symm
      have hdangerous : ∀ i < k,
          c.timeoutNext^[i] (c.timeoutNext s) ∈ c.dangerousStates allowSingleCycle := by
        intro i hi
        rw [hiterate]
        exact mem_dangerous_states.2 ((h i (by omega)).2 (by omega))
      have hstates : ∀ i ≤ k,
          c.timeoutNext^[i] (c.timeoutNext s) ∈ Finset.Ico 1 c.state.length := by
        intro i hi
        rw [hiterate, Finset.mem_Ico]
        exact (h i (by omega)).1
      have hlength :=
        (validate_graph_escapes hgraph (c.timeoutNext s)).length_lt_card hdangerous hstates
      rw [Nat.card_Ico] at hlength
      omega

/-- A timeout command that is a transition leads along the timeouts. -/
theorem timeout_leads {s x : Nat} (hc : c.Valid) (h : c.leadsTo s c.timeoutCmd = some x) :
    c.timeoutNext s = x ∧ 0 < x ∧ x < c.state.length := by
  have hgoes := leads_to_goes h
  refine ⟨?_, ?_, hgoes.lt_length⟩
  · rw [timeoutNext, hgoes.entry_eq, Option.getD_some]
  · exact Nat.pos_of_ne_zero (hc.entry_ne_zero _ _ _ hgoes.entry_eq)

end Config

end Codon.StateMachine
