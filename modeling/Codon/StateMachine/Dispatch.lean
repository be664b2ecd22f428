import Codon.StateMachine.Calls

/-!
# The parts of a dispatch

`Changes` is what handling the pending command does, `SyncParts` and `AsyncParts` cut
a dispatch into stretches and at most one state change. They say everything that a
dispatch can do and hold for every dispatch that gets through, whatever the
environment does; the results about runs are read off them.
-/

namespace Codon.StateMachine

open Codon.Library

namespace Config

/-- What `handle_pending_cmd` does: it drops the pending command, or it carries it out as a state
change between two stretches. -/
inductive Changes (c : Config) (env : Environment) (transitionTime : Int)
    (transitionPre transitionPost startSeq : Bool) (m : Machine) : Machine → List Event → Prop where
  | dropped
      (hbad : transitionTime = nanoTMax ∨
        (c.verbose ∧ c.cmdTable.lookupIndex m.slate.pendingCmdIndex = none) ∨
        ∀ x, ¬c.Goes m.slate.curState m.slate.pendingCmdIndex x) :
      Changes c env transitionTime transitionPre transitionPost startSeq m
        { m with slate := c.clearPending m.slate } []
  | carried {x : Nat} {ncs : ControlState} {m₁ m₂ : Machine} {d₁ d₂ : List Event}
      (hgoes : c.Goes m.slate.curState m.slate.pendingCmdIndex x)
      (hncs : c.state[x]? = some ncs)
      (hbefore : Stretch c m m₁ d₁
        (c.setStateCalls m.slate.curState x ncs transitionTime transitionPre transitionPost
          startSeq)
        (env.offers (c.setStateCalls m.slate.curState x ncs transitionTime transitionPre
          transitionPost startSeq)))
      (hafter : Stretch c (m₁.enter m.slate.pendingCmdIndex x) m₂ d₂ [.stateSig x]
        (env.offers [.stateSig x])) :
      Changes c env transitionTime transitionPre transitionPost startSeq m
        { m₂ with slate := c.clearPending m₂.slate }
        (d₁ ++ .stateSet m.slate.pendingCmdIndex x :: d₂)

/-- The end of a synchronous dispatch: nothing is pending, or the next state is pulled in. -/
inductive PullsIn (c : Config) (env : Environment) (controlTime : Int) (m : Machine) :
    Machine → List Event → Prop where
  | idle (hfree : m.slate.pendingCmdIndex = c.noop) :
      PullsIn c env controlTime m (saveLastPending m) []
  | pulled {x : Nat} {ncs : ControlState} {m₁ : Machine} {d : List Event}
      (hbusy : m.slate.pendingCmdIndex ≠ c.noop)
      (hgoes : c.Goes m.slate.curState m.slate.pendingCmdIndex x)
      (hncs : c.state[x]? = some ncs)
      (hahead : Stretch c m m₁ d (c.pullInCalls env x ncs controlTime)
        (env.offers (c.pullInCalls env x ncs controlTime))) :
      PullsIn c env controlTime m (saveLastPending m₁) d

/-- The parts of `SyncStateMachine::dispatch`: the pre tasks are dispatched (`d₁`), the pending
command is handled (`d₂`), the event sequence and the post tasks of the now current state run (`d₃`)
and the next state is pulled in (`d₄`). -/
structure SyncParts (c : Config) (env : Environment) (controlTime : Int)
    (m m₁ m₂ m₃ m' : Machine) (cs : ControlState) (d₁ d₂ d₃ d₄ : List Event) : Prop where
  dispatched : Stretch c m m₁ d₁ (dispatchCalls env controlTime c.preTasks)
    (env.offers (dispatchCalls env controlTime c.preTasks))
  resumed : m₁.slate.lastPendingCmdIndex ≠ c.noop →
    m₁.slate.lastPendingCmdIndex = m₁.slate.pendingCmdIndex
  changed : (m₁.slate.pendingCmdIndex = c.noop ∧ m₂ = m₁ ∧ d₂ = []) ∨
    (m₁.slate.pendingCmdIndex ≠ c.noop ∧
      Changes c env controlTime (decide (m₁.slate.lastPendingCmdIndex = c.noop)) false
        (decide (m₁.slate.lastPendingCmdIndex = c.noop)) m₁ m₂ d₂)
  changed_trace : m₂.trace = m₁.trace ++ d₂
  free : m₂.slate.pendingCmdIndex = c.noop
  state_eq : c.state[m₂.slate.curState]? = some cs
  after : Stretch c m₂ m₃ d₃
    (afterCheckCalls c env m₂.slate.curState cs controlTime
      (decide (m₁.slate.pendingCmdIndex ≠ c.noop)) (decide (m₁.slate.lastPendingCmdIndex ≠ c.noop)))
    (afterCheckCmds c env m₂.slate.curState cs controlTime
      (decide (m₁.slate.pendingCmdIndex ≠ c.noop)) (decide (m₁.slate.lastPendingCmdIndex ≠ c.noop)))
  pulled : PullsIn c env controlTime m₃ m' d₄
  pulled_trace : m'.trace = m₃.trace ++ d₄

/-- The parts of `AsyncStateMachine::dispatch`. -/
structure AsyncParts (c : Config) (env : Environment) (controlTime : Int)
    (m m₁ m₂ m' : Machine) (cs : ControlState) (d₁ d₂ d₃ : List Event) : Prop where
  dispatched : Stretch c m m₁ d₁ (dispatchCalls env controlTime c.preTasks)
    (env.offers (dispatchCalls env controlTime c.preTasks))
  changed : (controlTime < m₁.slate.nominalTransitionTime ∧ m₂ = m₁ ∧ d₂ = []) ∨
    (m₁.slate.nominalTransitionTime ≤ controlTime ∧ m₁.slate.pendingCmdIndex ≠ c.noop ∧
      Changes c env m₁.slate.nominalTransitionTime true true true m₁ m₂ d₂)
  changed_trace : m₂.trace = m₁.trace ++ d₂
  state_eq : c.state[m₂.slate.curState]? = some cs
  after : Stretch c m₂ m' d₃
    (sequenceCalls m₂.slate.curState cs controlTime ++ dispatchCalls env controlTime c.postTasks)
    (env.offers (sequenceCalls m₂.slate.curState cs controlTime) ++
      c.timeoutCalls env m₂.slate.curState cs controlTime ++
      env.offers (dispatchCalls env controlTime c.postTasks))

variable {c : Config} {env : Environment} {m m' : Machine} {controlTime : Int}

/-- The trace of a synchronous dispatch is that of its parts. -/
theorem SyncParts.trace_eq {m₁ m₂ m₃ : Machine} {cs : ControlState} {d₁ d₂ d₃ d₄ : List Event}
    (h : SyncParts c env controlTime m m₁ m₂ m₃ m' cs d₁ d₂ d₃ d₄) :
    m'.trace = m.trace ++ (d₁ ++ d₂ ++ d₃ ++ d₄) := by
  simp only [h.pulled_trace, h.after.trace_eq, h.changed_trace, h.dispatched.trace_eq,
    List.append_assoc]

/-- So is that of an asynchronous one. -/
theorem AsyncParts.trace_eq {m₁ m₂ : Machine} {cs : ControlState} {d₁ d₂ d₃ : List Event}
    (h : AsyncParts c env controlTime m m₁ m₂ m' cs d₁ d₂ d₃) :
    m'.trace = m.trace ++ (d₁ ++ d₂ ++ d₃) := by
  simp only [h.after.trace_eq, h.changed_trace, h.dispatched.trace_eq, List.append_assoc]

/-- A command that became pending in a stretch leads somewhere. -/
theorem hear_goes {e : SlateElements} {cmds : List Issue} (hfree : e.pendingCmdIndex = c.noop)
    (hbusy : (c.hear e cmds).pendingCmdIndex ≠ c.noop) :
    ∃ x, c.Goes e.curState (c.hear e cmds).pendingCmdIndex x := by
  rw [hear_of_free hfree] at hbusy ⊢
  cases hfind : cmds.find? fun issue => (c.leadsTo e.curState issue.call.cmd).isSome with
  | none =>
      rw [hfind] at hbusy
      exact absurd hfree hbusy
  | some issue =>
      have htaken := List.find?_some hfind
      obtain ⟨x, hx⟩ := Option.isSome_iff_exists.1 htaken
      exact ⟨x, leads_to_goes hx⟩

/-- A command leads to a state of the machine. -/
theorem Goes.state_eq {s k x : Nat} (h : c.Goes s k x) : ∃ ncs, c.state[x]? = some ncs :=
  ⟨_, List.getElem?_eq_getElem h.lt_length⟩

/-- Handling a pending command changes the state by it. -/
theorem handle_pending_cmd_changes {transitionTime : Int} {pre post start good : Bool}
    (h : c.handlePendingCmd env transitionTime pre post start m = some (good, m')) :
    m.slate.pendingCmdIndex ≠ c.noop ∧
      ∃ d, Changes c env transitionTime pre post start m m' d ∧ m'.trace = m.trace ++ d := by
  have hbusy : m.slate.pendingCmdIndex ≠ c.noop := by
    simp only [handlePendingCmd, bind, Option.bind_eq_some_iff, fsw_assert_eq_some,
      exists_const] at h
    exact h.1
  refine ⟨hbusy, ?_⟩
  by_cases hbad : transitionTime = nanoTMax ∨
      (c.verbose ∧ c.cmdTable.lookupIndex m.slate.pendingCmdIndex = none) ∨
      ∀ x, ¬c.Goes m.slate.curState m.slate.pendingCmdIndex x
  · rw [handle_pending_cmd_dropped hbusy hbad] at h
    cases h
    exact ⟨[], .dropped hbad, by simp⟩
  · simp only [not_or, not_forall, not_not] at hbad
    obtain ⟨htime, hlookup, x, hgoes⟩ := hbad
    obtain ⟨ncs, hncs⟩ := hgoes.state_eq
    obtain ⟨good', heq⟩ := handle_pending_cmd_eq env hbusy hgoes htime hlookup hncs
      pre post start
    rw [heq] at h
    obtain ⟨m₁, hcalls, h⟩ := Option.bind_eq_some_iff.1 h
    obtain ⟨m₂, hsig, h⟩ := Option.map_eq_some_iff.1 h
    cases h
    obtain ⟨d₁, hd₁⟩ := Stretch.callback_all hcalls
    have hsig' :
        c.callbackAll env [.stateSig x] (m₁.enter m.slate.pendingCmdIndex x) = some m₂ := by
      simp [callbackAll, hsig]
    obtain ⟨d₂, hd₂⟩ := Stretch.callback_all hsig'
    refine ⟨_, .carried hgoes hncs hd₁ hd₂, ?_⟩
    simp [hd₂.trace_eq, Machine.enter, hd₁.trace_eq]

/-- Whatever handling the pending command does, the elements name a state afterwards, and the
pending command of the previous dispatch is still noted. -/
theorem Changes.cur_state_lt {transitionTime : Int} {pre post start : Bool} {d : List Event}
    (h : Changes c env transitionTime pre post start m m' d)
    (hcur : m.slate.curState < c.state.length) : m'.slate.curState < c.state.length := by
  cases h with
  | dropped hbad => exact hcur
  | carried hgoes hncs hbefore hafter => exact hafter.cur_state_eq.trans_lt hgoes.lt_length

/-- Pulling in the next state calls its callbacks. -/
theorem pull_in_calls {cs : ControlState} {result : Option Machine} {x : Nat}
    (hcs : c.state[m.slate.curState]? = some cs)
    (hgoes : c.Goes m.slate.curState m.slate.pendingCmdIndex x)
    (h : c.pullInNextState env cs controlTime m = some result) :
    ∃ ncs m₁, c.state[x]? = some ncs ∧ result = some m₁ ∧
      c.callbackAll env (c.pullInCalls env x ncs controlTime) m = some m₁ := by
  obtain ⟨ncs, hncs⟩ := hgoes.state_eq
  have hx : cs.cmds[m.slate.pendingCmdIndex]? = some x := by
    rw [← entry_eq hcs]
    exact hgoes.entry_eq
  simp only [pullInNextState, hx, hncs, bind, pure, Option.bind_eq_some_iff] at h
  obtain ⟨⟨g, m₁⟩, hpre, ⟨good, m₂⟩, hask, h⟩ := h
  have hpre : c.callbackAll env (transitionCalls .ahead controlTime ncs c.preTasks) m = some m₁ :=
    transition_tasks_calls hpre
  simp only [ask, bind, pure, Option.bind_eq_some_iff] at hask
  obtain ⟨m₂, hstart, hask⟩ := hask
  cases hask
  have hcalls : c.callbackAll env (c.pullInCalls env x ncs controlTime) m =
      c.callbackAll env (if (env (.startSeqs .ahead x controlTime)).ok then
        [.dispatchSeqs .ahead x controlTime] else []) m₂ := by
    simp only [pullInCalls, callback_all_append, hpre, Option.bind_some, callbackAll, hstart, bind]
  split_ifs at h hcalls with hgood
  · obtain ⟨m₃, hdispatch, h⟩ := Option.bind_eq_some_iff.1 h
    cases h
    exact ⟨ncs, m₃, hncs, rfl, by simp [hcalls, callbackAll, hdispatch]⟩
  · cases h
    exact ⟨ncs, m₂, hncs, rfl, hcalls⟩

/-- Every synchronous dispatch that gets through has its parts. -/
theorem sync_parts (hcur : m.slate.curState < c.state.length)
    (h : c.syncDispatch env controlTime m = some m') :
    ∃ m₁ m₂ m₃ cs d₁ d₂ d₃ d₄,
      SyncParts c env controlTime m m₁ m₂ m₃ m' cs d₁ d₂ d₃ d₄ := by
  obtain ⟨m₁, m₂, good, hpre, hresumed, hpending, hfree, -, hrest⟩ := sync_dispatch_cases h
  obtain ⟨d₁, hd₁⟩ := Stretch.callback_all hpre
  have hcur₁ : m₁.slate.curState < c.state.length := by rwa [hd₁.cur_state_eq]
  -- the transition, if a command is pending
  obtain ⟨d₂, hchanged, htrace₂, hcur₂⟩ : ∃ d₂,
      ((m₁.slate.pendingCmdIndex = c.noop ∧ m₂ = m₁ ∧ d₂ = []) ∨
        (m₁.slate.pendingCmdIndex ≠ c.noop ∧
          Changes c env controlTime (decide (m₁.slate.lastPendingCmdIndex = c.noop)) false
            (decide (m₁.slate.lastPendingCmdIndex = c.noop)) m₁ m₂ d₂)) ∧
        m₂.trace = m₁.trace ++ d₂ ∧ m₂.slate.curState < c.state.length := by
    unfold onlyIf at hpending
    split_ifs at hpending with hbusy
    · obtain ⟨-, d₂, hd₂, htrace⟩ := handle_pending_cmd_changes hpending
      exact ⟨d₂, .inr ⟨hbusy, hd₂⟩, htrace, hd₂.cur_state_lt hcur₁⟩
    · cases hpending
      exact ⟨[], .inl ⟨not_not.1 hbusy, rfl, rfl⟩, by simp, hcur₁⟩
  rcases hrest with ⟨hnone, -⟩ | ⟨cs, m₃, hcs, ⟨d₃, hd₃⟩, hend⟩
  · rw [List.getElem?_eq_none_iff] at hnone
    omega
  have hcs₃ : c.state[m₃.slate.curState]? = some cs := by rw [hd₃.cur_state_eq, hcs]
  -- what the post tasks have left pending is pulled in
  obtain ⟨d₄, hpulled, htrace₄⟩ : ∃ d₄, PullsIn c env controlTime m₃ m' d₄ ∧
      m'.trace = m₃.trace ++ d₄ := by
    cases hend with
    | idle hfree => exact ⟨[], .idle hfree, by simp [saveLastPending]⟩
    | pulled hbusy hpull =>
        obtain ⟨x, hgoes⟩ : ∃ x, c.Goes m₃.slate.curState m₃.slate.pendingCmdIndex x := by
          rw [hd₃.pending_eq] at hbusy ⊢
          rw [hd₃.cur_state_eq]
          exact hear_goes hfree hbusy
        obtain ⟨ncs, m₄, hncs, rfl, hcalls⟩ := pull_in_calls hcs₃ hgoes hpull
        obtain ⟨d₄, hd₄⟩ := Stretch.callback_all hcalls
        exact ⟨d₄, .pulled hbusy hgoes hncs hd₄, hd₄.trace_eq⟩
  exact ⟨m₁, m₂, m₃, cs, d₁, d₂, d₃, d₄,
    { dispatched := hd₁
      resumed := hresumed
      changed := hchanged
      changed_trace := htrace₂
      free := hfree
      state_eq := hcs
      after := hd₃
      pulled := hpulled
      pulled_trace := htrace₄ }⟩

/-- Every asynchronous dispatch that gets through has its parts. -/
theorem async_parts {next : Int} (hcur : m.slate.curState < c.state.length)
    (h : c.asyncDispatch env controlTime m = some (next, m')) :
    ∃ m₁ m₂ cs d₁ d₂ d₃, AsyncParts c env controlTime m m₁ m₂ m' cs d₁ d₂ d₃ := by
  simp only [asyncDispatch, bind, pure, Option.bind_eq_some_iff] at h
  obtain ⟨⟨n₁, m₁⟩, hpre, ⟨good, m₂⟩, hpending, h⟩ := h
  obtain ⟨d₁, hd₁⟩ :=
    Stretch.callback_all ((performs_dispatch_tasks controlTime c.preTasks).calls hpre)
  have hcur₁ : m₁.slate.curState < c.state.length := by rwa [hd₁.cur_state_eq]
  -- the transition, if it is due
  obtain ⟨d₂, hchanged, htrace₂, hcur₂⟩ : ∃ d₂,
      ((controlTime < m₁.slate.nominalTransitionTime ∧ m₂ = m₁ ∧ d₂ = []) ∨
        (m₁.slate.nominalTransitionTime ≤ controlTime ∧ m₁.slate.pendingCmdIndex ≠ c.noop ∧
          Changes c env m₁.slate.nominalTransitionTime true true true m₁ m₂ d₂)) ∧
        m₂.trace = m₁.trace ++ d₂ ∧ m₂.slate.curState < c.state.length := by
    unfold onlyIf at hpending
    split_ifs at hpending with hdue
    · obtain ⟨hbusy, d₂, hd₂, htrace⟩ := handle_pending_cmd_changes hpending
      exact ⟨d₂, .inr ⟨by simpa using hdue, hbusy, hd₂⟩, htrace, hd₂.cur_state_lt hcur₁⟩
    · cases hpending
      exact ⟨[], .inl ⟨by simpa using hdue, rfl, rfl⟩, by simp, hcur₁⟩
  split at h
  next hnone => exact absurd hcur₂ (List.getElem?_eq_none_iff.1 hnone).not_gt
  next cs hcs =>
  simp only [Option.bind_eq_some_iff] at h
  obtain ⟨⟨⟨t, verdict⟩, m₃⟩, hseq, ⟨n₄, m₄⟩, hpost, h⟩ := h
  cases h
  obtain ⟨d₃, hd₃⟩ := dispatch_sequence_calls hseq
  obtain ⟨d₄, hd₄⟩ :=
    Stretch.callback_all ((performs_dispatch_tasks controlTime c.postTasks).calls hpost)
  have hafter := hd₃.append hd₄
  exact ⟨m₁, m₂, cs, d₁, d₂, d₃ ++ d₄,
    { dispatched := hd₁
      changed := hchanged
      changed_trace := htrace₂
      state_eq := hcs
      after := hafter }⟩

/-- The callbacks of `set_initial_state`. -/
def startCalls (c : Config) (cs : ControlState) : List Callback :=
  (if cs.seqs ≠ [] then [.startSeqs .now 0 c.initialControlTime] else []) ++
    (if cs.seqs ≠ [] then [.dispatchSeqs .now 0 c.initialControlTime] else []) ++ [.stateSig 0]

/-- Initialisation makes one stretch. -/
theorem start_stretch (h : c.start env = some m) :
    ∃ d cs, Stretch c ⟨c.createdElements, []⟩ m d (c.startCalls cs)
      (env.offers (c.startCalls cs)) := by
  simp only [start, bind, Option.bind_eq_some_iff] at h
  obtain ⟨cs, -, ⟨good, m₁⟩, hstart, h⟩ := h
  split_ifs at h
  obtain ⟨⟨ok, m₂⟩, hdispatch, hsig⟩ := Option.bind_eq_some_iff.1 h
  obtain ⟨d₁, hd₁⟩ := Stretch.callback_all (only_if_calls (performs_ask _).calls hstart)
  obtain ⟨d₂, hd₂⟩ := Stretch.callback_all (only_if_calls (performs_ask _).calls hdispatch)
  have hcall : c.callbackAll env [.stateSig 0] m₂ = some m := by simp [callbackAll, hsig]
  obtain ⟨d₃, hd₃⟩ := Stretch.callback_all hcall
  have hsteps := (hd₁.append hd₂).append hd₃
  rw [← offers_append, ← offers_append] at hsteps
  exact ⟨_, cs, hsteps⟩

end Config

end Codon.StateMachine
