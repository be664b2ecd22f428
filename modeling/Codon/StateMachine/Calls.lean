import Codon.StateMachine.Stretch

/-!
# What each function of the state machine calls, in order

The environment of an operation decides all of its control flow: which tasks are
active, and which calls succeed. Each function is therefore a list of callbacks with
a few assignments between them. This module gives the lists and says that the functions
are them, `sync_dispatch_cases` putting the whole of `SyncStateMachine::dispatch` together.
-/

namespace Codon.StateMachine

/-- The callbacks of a transition loop. -/
def transitionCalls (phase : Phase) (transitionTime : Int) (cs : ControlState)
    (tasks : List Nat) : List Callback :=
  tasks.filterMap fun i => (cs.tasks[i]?).map (.transition phase transitionTime i)

/-- The callbacks of a dispatch loop. -/
def dispatchCalls (env : Environment) (controlTime : Int) (tasks : List Nat) : List Callback :=
  tasks.flatMap fun i =>
    .isActive i :: if (env (.isActive i)).ok then [.dispatch i controlTime] else []

/-- The callback that runs the event sequences of the current state. -/
def sequenceCalls (stateNum : Nat) (cs : ControlState) (controlTime : Int) : List Callback :=
  if cs.seqs = [] then [] else [.dispatchSeqs .now stateNum controlTime]

namespace Config

variable (c : Config)

/-- The callbacks that `set_state` makes before it changes the state. -/
def setStateCalls (oldStateNum newStateNum : Nat) (ncs : ControlState) (transitionTime : Int)
    (transitionPre transitionPost startSeq : Bool) : List Callback :=
  (if transitionPre then transitionCalls .now transitionTime ncs c.preTasks else []) ++
    (if transitionPost then transitionCalls .now transitionTime ncs c.postTasks else []) ++
    (if newStateNum ≠ oldStateNum then [.endSeqs oldStateNum] else []) ++
    (if startSeq ∧ ncs.seqs ≠ [] then [.startSeqs .now newStateNum transitionTime] else [])

/-- The timeout command, when the event sequences have ended. -/
def timeoutCalls (env : Environment) (stateNum : Nat) (cs : ControlState) (controlTime : Int) :
    List Issue :=
  if cs.seqs ≠ [] ∧ (env (.dispatchSeqs .now stateNum controlTime)).time = nanoTMax then
    [⟨.timeout, controlTime, c.timeoutCmd⟩]
  else []

/-- The callbacks that pull in the next state. -/
def pullInCalls (env : Environment) (newStateNum : Nat) (ncs : ControlState)
    (controlTime : Int) : List Callback :=
  transitionCalls .ahead controlTime ncs c.preTasks ++
    .startSeqs .ahead newStateNum controlTime ::
      if (env (.startSeqs .ahead newStateNum controlTime)).ok then
        [.dispatchSeqs .ahead newStateNum controlTime]
      else []

end Config

/-- The state change of `set_state`. -/
def Machine.enter (m : Machine) (cmdIndex newStateNum : Nat) : Machine :=
  { m with slate := Config.recordState m.slate newStateNum }.log (.stateSet cmdIndex newStateNum)

namespace Config

variable {c : Config} {env : Environment} {m m' : Machine}

/-- Callbacks in two parts are the second part called after the first. -/
theorem callback_all_append (cbs cbs' : List Callback) :
    c.callbackAll env (cbs ++ cbs') m =
      (c.callbackAll env cbs m).bind (c.callbackAll env cbs') := by
  induction cbs generalizing m with
  | nil => rfl
  | cons cb cbs ih =>
      simp only [List.cons_append, callbackAll, bind, Option.bind_assoc]
      exact congrArg _ (funext fun m => ih)

/-- `f` makes the callbacks `cbs` and does nothing else to the machine. -/
def Performs {α : Type} (c : Config) (env : Environment) (f : Machine → Option (α × Machine))
    (cbs : List Callback) : Prop :=
  ∃ result, ∀ m, f m = (c.callbackAll env cbs m).map (result, ·)

/-- A conditional step performs its callbacks or none. -/
theorem Performs.onlyIf {f : Machine → Option (Bool × Machine)} {cbs : List Callback}
    (h : Performs c env f cbs) (cond : Prop) [Decidable cond] :
    Performs c env (onlyIf cond f) (if cond then cbs else []) := by
  by_cases hcond : cond
  · obtain ⟨result, hresult⟩ := h
    exact ⟨result, fun m => by simp [StateMachine.onlyIf, hcond, hresult]⟩
  · exact ⟨true, fun m => by simp [StateMachine.onlyIf, hcond, callbackAll]⟩

/-- Asking for a callback performs it. -/
theorem performs_ask (cb : Callback) : Performs c env (c.ask env cb) [cb] :=
  ⟨(env cb).ok, fun m => by simp [ask, callbackAll, Option.map_eq_bind]⟩

/-- A transition of tasks performs the callbacks listed for it. -/
theorem performs_transition_tasks {transitionTime : Int} (htime : transitionTime ≠ nanoTMax)
    (phase : Phase) (cs : ControlState) (tasks : List Nat) :
    Performs c env (c.transitionTasks env phase transitionTime cs tasks)
      (transitionCalls phase transitionTime cs tasks) := by
  induction tasks with
  | nil => exact ⟨true, fun m => rfl⟩
  | cons i tasks ih =>
      obtain ⟨rest, hrest⟩ := ih
      cases hinfo : cs.tasks[i]? with
      | none =>
          refine ⟨false, fun m => ?_⟩
          simp [transitionTasks, transitionTask, hinfo, hrest, transitionCalls, Option.bind_assoc,
            Option.map_eq_bind]
      | some info =>
          refine ⟨(env (.transition phase transitionTime i info)).ok && rest, fun m => ?_⟩
          simp [transitionTasks, transitionTask, hinfo, hrest, htime, transitionCalls, callbackAll,
            fsw_assert_of, ask, Option.bind_assoc, Option.map_eq_bind]

/-- A dispatch of tasks performs the callbacks listed for it. -/
theorem performs_dispatch_tasks (controlTime : Int) (tasks : List Nat) :
    Performs c env (c.dispatchTasks env controlTime tasks)
      (dispatchCalls env controlTime tasks) := by
  induction tasks with
  | nil => exact ⟨nanoTMax, fun m => rfl⟩
  | cons i tasks ih =>
      obtain ⟨rest, hrest⟩ := ih
      by_cases hactive : (env (.isActive i)).ok = true
      · refine ⟨min (env (.dispatch i controlTime)).time rest, fun m => ?_⟩
        simp [dispatchTasks, dispatchCalls, hactive, hrest, callbackAll, ask, Option.bind_assoc,
          Option.map_eq_bind]
      · refine ⟨rest, fun m => ?_⟩
        simp [dispatchTasks, dispatchCalls, hactive, hrest, callbackAll, ask, Option.bind_assoc,
          Option.map_eq_bind]

/-- What performs callbacks has called them all. -/
theorem Performs.calls {α : Type} {f : Machine → Option (α × Machine)} {cbs : List Callback}
    {result : α} (h : Performs c env f cbs) (hf : f m = some (result, m')) :
    c.callbackAll env cbs m = some m' := by
  obtain ⟨result', heq⟩ := h
  rw [heq] at hf
  obtain ⟨m'', hcalls, hpair⟩ := Option.map_eq_some_iff.1 hf
  cases hpair
  exact hcalls

/-- A transition loop at the time `nano_t_max` gets through only if it has no task to transition. -/
theorem transition_tasks_calls {phase : Phase} {transitionTime : Int} {cs : ControlState}
    {tasks : List Nat} {good : Bool}
    (h : c.transitionTasks env phase transitionTime cs tasks m = some (good, m')) :
    c.callbackAll env (transitionCalls phase transitionTime cs tasks) m = some m' := by
  by_cases htime : transitionTime = nanoTMax
  · induction tasks generalizing good m with
    | nil =>
        cases h
        rfl
    | cons i tasks ih =>
        simp only [transitionTasks, bind, pure, Option.bind_eq_some_iff] at h
        obtain ⟨⟨g, m₁⟩, hfirst, ⟨g', m₂⟩, hrest, h⟩ := h
        cases h
        cases hinfo : cs.tasks[i]? with
        | none =>
            simp only [transitionTask, hinfo] at hfirst
            cases hfirst
            simpa [transitionCalls, hinfo] using ih hrest
        | some info => simp [transitionTask, hinfo, htime, fswAssert] at hfirst
  · exact (performs_transition_tasks htime phase cs tasks).calls h

/-- A skipped step does nothing; one that is not skipped does what it does. -/
theorem only_if_calls {cond : Prop} [Decidable cond] {f : Machine → Option (Bool × Machine)}
    {cbs : List Callback} {good : Bool}
    (hf : ∀ {good}, f m = some (good, m') → c.callbackAll env cbs m = some m')
    (h : onlyIf cond f m = some (good, m')) :
    c.callbackAll env (if cond then cbs else []) m = some m' := by
  unfold onlyIf at h
  split_ifs at h with hcond
  · rw [if_pos hcond]
    exact hf h
  · cases h
    rw [if_neg hcond]
    rfl

/-! ## State changes -/

/-- A `set_state` that gets as far as its callbacks: they come first, then the state changes and
is announced. -/
theorem set_state_eq (env : Environment) {newStateNum cmdIndex : Nat} {ncs : ControlState}
    {transitionTime : Int} (htime : transitionTime ≠ nanoTMax)
    (hlookup : ¬(c.verbose ∧ c.cmdTable.lookupIndex cmdIndex = none))
    (hncs : c.state[newStateNum]? = some ncs) (transitionPre transitionPost startSeq : Bool)
    (m : Machine) :
    ∃ good, c.setState env newStateNum cmdIndex transitionTime transitionPre transitionPost
        startSeq m =
      (c.callbackAll env (c.setStateCalls m.slate.curState newStateNum ncs transitionTime
        transitionPre transitionPost startSeq) m).bind fun m =>
        (c.callback env (.stateSig newStateNum) (m.enter cmdIndex newStateNum)).map (good, ·) := by
  have hpre : Performs c env (c.transitionPreTasks env .now transitionTime ncs) _ :=
    performs_transition_tasks htime .now ncs c.preTasks
  have hpost : Performs c env (c.transitionPostTasks env .now transitionTime ncs) _ :=
    performs_transition_tasks htime .now ncs c.postTasks
  obtain ⟨preGood, hpre⟩ := hpre.onlyIf transitionPre
  obtain ⟨postGood, hpost⟩ := hpost.onlyIf transitionPost
  obtain ⟨endGood, hend⟩ : Performs c env _ _ :=
    (performs_ask (.endSeqs m.slate.curState)).onlyIf (newStateNum ≠ m.slate.curState)
  obtain ⟨startGood, hstart⟩ : Performs c env _ _ :=
    (performs_ask (.startSeqs .now newStateNum transitionTime)).onlyIf
      (startSeq ∧ ncs.seqs ≠ [])
  refine ⟨preGood && postGood && endGood && startGood, ?_⟩
  unfold setState
  simp only [fsw_assert_of htime, hlookup, hncs, if_false, hpre, hpost, hend, hstart,
    setStateCalls, callback_all_append, bind, pure, Option.bind_some, Option.bind_assoc,
    Option.map_eq_bind]
  rfl

/-- The table leads from state `s` with command `k` to the state `x`. -/
structure Goes (c : Config) (s k x : Nat) : Prop where
  entry_eq : c.entry s k = some x
  ne_undefined : x ≠ undefinedState
  ne_ignore : x ≠ ignoreState
  lt_length : x < c.state.length

/-- A command leads to one state. -/
theorem Goes.unique {s k x y : Nat} (hx : c.Goes s k x) (hy : c.Goes s k y) : x = y :=
  Option.some.inj (hx.entry_eq.symm.trans hy.entry_eq)

/-- Where a command leads, it goes. -/
theorem leads_to_goes {s ns : Nat} {cmd : VehicleCmd} (h : c.leadsTo s cmd = some ns) :
    c.Goes s cmd.index ns := by
  obtain ⟨-, hentry, hundef, hignore, hlength⟩ := leads_to_eq_some.1 h
  exact ⟨hentry, hundef, hignore, hlength⟩

/-- `handle_pending_cmd` carries out a command that the table knows. -/
theorem handle_pending_cmd_eq (env : Environment) {x : Nat} {ncs : ControlState}
    {transitionTime : Int} (hbusy : m.slate.pendingCmdIndex ≠ c.noop)
    (hgoes : c.Goes m.slate.curState m.slate.pendingCmdIndex x)
    (htime : transitionTime ≠ nanoTMax)
    (hlookup : ¬(c.verbose ∧ c.cmdTable.lookupIndex m.slate.pendingCmdIndex = none))
    (hncs : c.state[x]? = some ncs) (transitionPre transitionPost startSeq : Bool) :
    ∃ good, c.handlePendingCmd env transitionTime transitionPre transitionPost startSeq m =
      (c.callbackAll env (c.setStateCalls m.slate.curState x ncs transitionTime transitionPre
        transitionPost startSeq) m).bind fun m₁ =>
        (c.callback env (.stateSig x) (m₁.enter m.slate.pendingCmdIndex x)).map fun m₂ =>
          (good, { m₂ with slate := c.clearPending m₂.slate }) := by
  obtain ⟨good, hset⟩ := set_state_eq env htime hlookup hncs transitionPre
    transitionPost startSeq m
  obtain ⟨cs, hcs, hentry⟩ := Option.bind_eq_some_iff.1 hgoes.entry_eq
  refine ⟨good, ?_⟩
  simp [handlePendingCmd, handlePendingCmdAux, hbusy, fsw_assert_of, htime, hcs, hentry,
    hgoes.ne_undefined, hgoes.ne_ignore, hgoes.lt_length.not_ge, hset, Option.bind_assoc,
    Option.map_eq_bind]

/-- A pending command that leads nowhere is not executed and changes nothing. -/
theorem handle_pending_cmd_aux_fails {transitionTime : Int}
    (hbad : transitionTime = nanoTMax ∨
      (c.verbose ∧ c.cmdTable.lookupIndex m.slate.pendingCmdIndex = none) ∨
      ∀ x, ¬c.Goes m.slate.curState m.slate.pendingCmdIndex x)
    (transitionPre transitionPost startSeq : Bool) :
    c.handlePendingCmdAux env transitionTime transitionPre transitionPost startSeq m =
      some (false, m) := by
  unfold handlePendingCmdAux
  by_cases htime : transitionTime = nanoTMax
  · rw [if_pos htime]
  rw [if_neg htime]
  split_ifs with hfree
  · rfl
  split
  next => rfl
  next cs hcs =>
  split
  next => rfl
  next x hx =>
  split_ifs with hnone
  · rfl
  · simp only [not_or, not_le] at hnone
    have hgoes : c.Goes m.slate.curState m.slate.pendingCmdIndex x :=
      ⟨by rw [entry_eq hcs, hx], hnone.1, hnone.2.1, hnone.2.2⟩
    rcases hbad with hmax | hlookup | hnowhere
    · exact absurd hmax htime
    · simp [setState, fsw_assert_of htime, hlookup]
    · exact absurd hgoes (hnowhere x)

/-- `handle_pending_cmd` drops any other command. -/
theorem handle_pending_cmd_dropped {transitionTime : Int}
    (hbusy : m.slate.pendingCmdIndex ≠ c.noop)
    (hbad : transitionTime = nanoTMax ∨
      (c.verbose ∧ c.cmdTable.lookupIndex m.slate.pendingCmdIndex = none) ∨
      ∀ x, ¬c.Goes m.slate.curState m.slate.pendingCmdIndex x)
    (transitionPre transitionPost startSeq : Bool) :
    c.handlePendingCmd env transitionTime transitionPre transitionPost startSeq m =
      some (false, { m with slate := c.clearPending m.slate }) := by
  simp [handlePendingCmd, fsw_assert_of hbusy, handle_pending_cmd_aux_fails hbad]

/-! ## Dispatching -/

/-- The event sequence part of a dispatch. -/
theorem dispatch_sequence_calls {cs : ControlState} {controlTime : Int}
    {result : Option Int × Option Verdict}
    (h : c.dispatchSequence env cs controlTime m = some (result, m')) :
    ∃ d, Stretch c m m' d (sequenceCalls m.slate.curState cs controlTime)
      (env.offers (sequenceCalls m.slate.curState cs controlTime) ++
        c.timeoutCalls env m.slate.curState cs controlTime) := by
  unfold dispatchSequence at h
  split_ifs at h with hseqs
  · cases h
    simp only [sequenceCalls, timeoutCalls, hseqs, if_true]
    exact ⟨[], .refl _⟩
  · simp only [bind, pure, Option.bind_eq_some_iff] at h
    obtain ⟨m₁, hcall, h⟩ := h
    have hall : c.callbackAll env (sequenceCalls m.slate.curState cs controlTime) m = some m₁ := by
      simp [sequenceCalls, hseqs, callbackAll, hcall]
    obtain ⟨d, hd⟩ := Stretch.callback_all hall
    split_ifs at h with hended
    · obtain ⟨⟨verdict, m₂⟩, hsubmit, h⟩ := Option.bind_eq_some_iff.1 h
      cases h
      have htimeout : c.timeoutCalls env m.slate.curState cs controlTime =
          [⟨.timeout, controlTime, c.timeoutCmd⟩] := if_pos ⟨hseqs, hended⟩
      have hsteps := (hd.append (.set_event_time m₁ _)).append (.submit hsubmit)
      rw [List.append_nil, List.append_nil, List.append_nil, List.append_nil] at hsteps
      rw [htimeout]
      exact ⟨_, hsteps⟩
    · cases h
      have htimeout : c.timeoutCalls env m.slate.curState cs controlTime = [] :=
        if_neg fun hboth => hended hboth.2
      have hsteps := hd.append (.set_event_time m₁
        (env (.dispatchSeqs .now m.slate.curState controlTime)).currentTime)
      rw [List.append_nil, List.append_nil] at hsteps
      rw [htimeout]
      exact ⟨_, hsteps⟩

/-- The part of a dispatch after the check for a pending command: the callbacks. -/
def afterCheckCalls (c : Config) (env : Environment) (stateNum : Nat) (cs : ControlState)
    (controlTime : Int) (transitioned resumed : Bool) : List Callback :=
  (if transitioned && resumed then transitionCalls .now controlTime cs c.postTasks else []) ++
    sequenceCalls stateNum cs controlTime ++
    (if transitioned && !resumed then transitionCalls .now controlTime cs c.postTasks else []) ++
    dispatchCalls env controlTime c.postTasks

/-- The part of a dispatch after the check for a pending command: the commands. -/
def afterCheckCmds (c : Config) (env : Environment) (stateNum : Nat) (cs : ControlState)
    (controlTime : Int) (transitioned resumed : Bool) : List Issue :=
  env.offers
      (if transitioned && resumed then transitionCalls .now controlTime cs c.postTasks else []) ++
    env.offers (sequenceCalls stateNum cs controlTime) ++
    c.timeoutCalls env stateNum cs controlTime ++
    env.offers
      (if transitioned && !resumed then transitionCalls .now controlTime cs c.postTasks else []) ++
    env.offers (dispatchCalls env controlTime c.postTasks)

/-- What `SyncStateMachine::dispatch` does after its check for a pending command, up to the second
such check. -/
def AfterCheck (c : Config) (env : Environment) (controlTime : Int) (cs : ControlState)
    (transitioned resumed : Bool) (m m' : Machine) : Prop :=
  ∃ d, Stretch c m m' d
    (afterCheckCalls c env m.slate.curState cs controlTime transitioned resumed)
    (afterCheckCmds c env m.slate.curState cs controlTime transitioned resumed)

/-- What `SyncStateMachine::dispatch` does from its second check for a pending command on. -/
inductive EndsDispatch (c : Config) (env : Environment) (controlTime : Int) (cs : ControlState)
    (m : Machine) : Machine → Prop where
  | idle (hfree : m.slate.pendingCmdIndex = c.noop) :
      EndsDispatch c env controlTime cs m (saveLastPending m)
  | pulled {result : Option Machine} (hbusy : m.slate.pendingCmdIndex ≠ c.noop)
      (hpull : c.pullInNextState env cs controlTime m = some result) :
      EndsDispatch c env controlTime cs m ((result.map saveLastPending).getD m)

/-- The parts of `SyncStateMachine::dispatch`: the pre tasks are dispatched, a pending command is
handled, the callbacks of the now current state are made, and the next state is pulled in. -/
theorem sync_dispatch_cases {controlTime : Int} (h : c.syncDispatch env controlTime m = some m') :
    ∃ m₁ m₂ good, c.callbackAll env (dispatchCalls env controlTime c.preTasks) m = some m₁ ∧
      (m₁.slate.lastPendingCmdIndex ≠ c.noop →
        m₁.slate.lastPendingCmdIndex = m₁.slate.pendingCmdIndex) ∧
      onlyIf (m₁.slate.pendingCmdIndex ≠ c.noop)
        (c.handlePendingCmd env controlTime (decide (m₁.slate.lastPendingCmdIndex = c.noop)) false
          (decide (m₁.slate.lastPendingCmdIndex = c.noop))) m₁ = some (good, m₂) ∧
      m₂.slate.pendingCmdIndex = c.noop ∧ m₂.slate.nominalTransitionTime = nanoTMax ∧
      (c.state[m₂.slate.curState]? = none ∧ m' = m₂ ∨
        ∃ cs m₃, c.state[m₂.slate.curState]? = some cs ∧
          AfterCheck c env controlTime cs (decide (m₁.slate.pendingCmdIndex ≠ c.noop))
            (decide (m₁.slate.lastPendingCmdIndex ≠ c.noop)) m₂ m₃ ∧
          EndsDispatch c env controlTime cs m₃ m') := by
  simp only [syncDispatch, bind, pure, Option.bind_eq_some_iff, fsw_assert_eq_some,
    exists_const] at h
  obtain ⟨⟨next, m₁⟩, hpre, hlast, ⟨good, m₂⟩, hpending, hfree, hnominal, h⟩ := h
  have hcalls := (performs_dispatch_tasks controlTime c.preTasks).calls hpre
  refine ⟨m₁, m₂, good, hcalls, ?_, ?_, hfree, hnominal, ?_⟩
  · intro hresumed
    simpa [hresumed] using hlast
  · simpa using hpending
  split at h
  next hstate =>
      cases h
      exact .inl ⟨hstate, rfl⟩
  next cs hcs =>
  simp only [Option.bind_eq_some_iff] at h
  obtain ⟨⟨g₁, n₁⟩, hn₁, ⟨result, n₂⟩, hn₂, ⟨g₂, n₃⟩, hn₃, ⟨next', m₃⟩, hpost, h⟩ := h
  refine .inr ⟨cs, m₃, hcs, ?_, ?_⟩
  · obtain ⟨d₁, hd₁⟩ := Stretch.callback_all (only_if_calls transition_tasks_calls hn₁)
    obtain ⟨d₂, hd₂⟩ := dispatch_sequence_calls hn₂
    obtain ⟨d₃, hd₃⟩ := Stretch.callback_all (only_if_calls transition_tasks_calls hn₃)
    obtain ⟨d₄, hd₄⟩ :=
      Stretch.callback_all ((performs_dispatch_tasks controlTime c.postTasks).calls hpost)
    rw [hd₁.cur_state_eq] at hd₂
    have hsteps := ((hd₁.append hd₂).append hd₃).append hd₄
    exact ⟨_, by simpa [afterCheckCalls, afterCheckCmds] using hsteps⟩
  · split_ifs at h with hbusy
    · obtain ⟨result, hpull, h⟩ := Option.bind_eq_some_iff.1 h
      have hend := EndsDispatch.pulled hbusy hpull
      cases result <;> cases h <;> exact hend
    · cases h
      exact .idle (not_not.1 hbusy)

end Config

end Codon.StateMachine
