import Codon.StateMachine.Build

/-!
# Running a state machine

`handle_cmd`, `set_state`, the two `dispatch` functions and `force_state`, over the
slate elements that a state machine owns.

Control tasks, event sequences and the listeners of `state_sig` are outside code. The
machine calls them back, and while they run they may issue commands. An operation is
therefore given an `Environment`: for each callback the commands that are issued
during it and what it returns. No callback is made twice in one operation, `Phase`
telling the two places apart from which a synchronous dispatch transitions a task
or runs an event sequence.

Everything observable is logged in a trace: each callback with the slate elements
that it finds, each handled command with its verdict and the elements that it leaves,
and each change of the current state. `is_init` is true throughout, since a machine
is `start`ed from a configuration that `init` accepted.
-/

namespace Codon.StateMachine

/-- The slate elements of a state machine. `event_sequence_time` is held in nanoseconds. -/
structure SlateElements where
  pendingCmdIndex : Nat
  nominalTransitionTime : Int
  curState : Nat
  oldState : Int
  olderState : Int
  lastPendingCmdIndex : Nat
  eventSequenceTime : Int
deriving DecidableEq

/-- `vc_cmd_response_t`. -/
inductive Response where
  | accept
  | defer
  | reject
deriving DecidableEq

/-- What a call of `handle_cmd` gives back: its return value and its two reference arguments. -/
structure Verdict where
  ok : Bool
  response : Response
  retryAt : Int
deriving DecidableEq

/-- A call of `handle_cmd`. -/
structure CmdCall where
  controlTime : Int
  cmd : VehicleCmd
deriving DecidableEq

/-- Which part of a synchronous dispatch a callback belongs to: the state that is current, or the
next one, whose start is pulled in ahead of the transition. -/
inductive Phase where
  | now
  | ahead
deriving DecidableEq

/-- The calls that a state machine makes into other code. `transition` stands for `start`, `stop`,
`cont` and `cmd`, which the task information selects. -/
inductive Callback where
  | isActive (task : Nat)
  | dispatch (task : Nat) (controlTime : Int)
  | transition (phase : Phase) (transitionTime : Int) (task : Nat) (info : TaskInfo)
  | endSeqs (state : Nat)
  | startSeqs (phase : Phase) (state : Nat) (transitionTime : Int)
  | dispatchSeqs (phase : Phase) (state : Nat) (controlTime : Int)
  | stateSig (state : Nat)
deriving DecidableEq

/-- What a callback does: the commands it issues, its boolean or time result, and for
`dispatch_seqs` what `get_current_time` returns afterwards. -/
structure Reply where
  cmds : List CmdCall := []
  ok : Bool := true
  time : Int := nanoTMax
  currentTime : Int := 0

/-- The behaviour of the outside code during one operation. -/
abbrev Environment := Callback → Reply

/-- Who issues a command. -/
inductive Origin where
  | outside
  | callback (cb : Callback)
  | timeout
deriving DecidableEq

/-- A call of `handle_cmd` together with who makes it. -/
structure Issue where
  origin : Origin
  call : CmdCall
deriving DecidableEq

/-- A line of the trace. -/
inductive Event where
  | callback (cb : Callback) (seen : SlateElements)
  | command (issue : Issue) (verdict : Verdict) (left : SlateElements)
  | stateSet (cmdIndex target : Nat)
deriving DecidableEq

/-- A running state machine. -/
structure Machine where
  slate : SlateElements
  trace : List Event
deriving DecidableEq

/-- Appends one line to the trace. -/
def Machine.log (m : Machine) (ev : Event) : Machine := { m with trace := m.trace ++ [ev] }

@[simp] theorem Machine.log_slate (m : Machine) (ev : Event) : (m.log ev).slate = m.slate := rfl

@[simp] theorem Machine.log_trace (m : Machine) (ev : Event) :
    (m.log ev).trace = m.trace ++ [ev] := rfl

/-- A step that is skipped, and then succeeds, unless its condition holds. -/
def onlyIf (cond : Prop) [Decidable cond] (step : Machine → Option (Bool × Machine))
    (m : Machine) : Option (Bool × Machine) :=
  if cond then step m else some (true, m)

namespace Config

variable (c : Config) (env : Environment)

/-! ## Commands -/

/-- `set_nominal_transition_time`. -/
def setNominalTransitionTime (controlTime : Int) : Option Int := do
  let nominal := c.calculateNextTime controlTime c.transitionPeriod - c.transitionPeriod
  fswAssert (controlTime - c.transitionPeriod < nominal)
  fswAssert (nominal ≤ controlTime)
  return nominal

/-- `StateMachine::handle_cmd`. -/
def handleCmd (e : SlateElements) (controlTime : Int) (cmd : VehicleCmd) :
    Option (Verdict × SlateElements) :=
  let retryAt := e.nominalTransitionTime
  if e.pendingCmdIndex ≠ c.noop then some (⟨true, .defer, retryAt⟩, e)
  else if cmd.isInvalid then some (⟨false, .reject, retryAt⟩, e)
  else if !c.cmdTable.check cmd then some (⟨false, .reject, retryAt⟩, e)
  else
    match c.state[e.curState]? with
    | none => some (⟨false, .defer, retryAt⟩, e)
    | some cs =>
        match cs.cmds[cmd.index]? with
        | none => some (⟨false, .defer, retryAt⟩, e)
        | some ns =>
            -- the timeout command is answered first, without a console message
            if c.timeoutCmd = cmd ∧ ns = undefinedState then some (⟨true, .reject, retryAt⟩, e)
            else if c.timeoutCmd = cmd ∧ ns = ignoreState then some (⟨true, .accept, retryAt⟩, e)
            else if ns = ignoreState ∨ c.cmdTable.isNoop cmd then
              some (⟨true, .accept, retryAt⟩, e)
            else if ns = undefinedState then some (⟨true, .reject, retryAt⟩, e)
            else if c.state.length ≤ ns then some (⟨true, .reject, retryAt⟩, e)
            else do
              fswAssert (e.pendingCmdIndex = c.noop)
              let nominal ← c.setNominalTransitionTime controlTime
              return (⟨true, .accept, retryAt⟩,
                { e with pendingCmdIndex := cmd.index, nominalTransitionTime := nominal })

/-- A command is issued and handled. -/
def submit (issue : Issue) (m : Machine) : Option (Verdict × Machine) := do
  let (verdict, left) ← c.handleCmd m.slate issue.call.controlTime issue.call.cmd
  return (verdict, { m with slate := left }.log (.command issue verdict left))

/-- Commands, one after the other. -/
def submitAll : List Issue → Machine → Option Machine
  | [], m => some m
  | issue :: issues, m => do
      let (_, m) ← c.submit issue m
      submitAll issues m

/-- A callback, with the commands that are issued while it runs. -/
def callback (cb : Callback) (m : Machine) : Option Machine :=
  c.submitAll ((env cb).cmds.map fun call => ⟨.callback cb, call⟩) (m.log (.callback cb m.slate))

/-- A callback with a boolean result. -/
def ask (cb : Callback) (m : Machine) : Option (Bool × Machine) := do
  let m ← c.callback env cb m
  return ((env cb).ok, m)

/-! ## Control tasks -/

/-- `transition_task`. -/
def transitionTask (phase : Phase) (transitionTime : Int) (cs : ControlState) (m : Machine)
    (taskNum : Nat) : Option (Bool × Machine) :=
  match cs.tasks[taskNum]? with
  | none => some (false, m)
  | some info => do
      fswAssert (transitionTime ≠ nanoTMax)
      c.ask env (.transition phase transitionTime taskNum info) m

/-- The loop of `transition_pre_tasks` and `transition_post_tasks`. -/
def transitionTasks (phase : Phase) (transitionTime : Int) (cs : ControlState) :
    List Nat → Machine → Option (Bool × Machine)
  | [], m => some (true, m)
  | i :: tasks, m => do
      let (good, m) ← c.transitionTask env phase transitionTime cs m i
      let (rest, m) ← transitionTasks phase transitionTime cs tasks m
      return (good && rest, m)

/-- `transition_pre_tasks`. -/
def transitionPreTasks (phase : Phase) (transitionTime : Int) (cs : ControlState) (m : Machine) :
    Option (Bool × Machine) :=
  c.transitionTasks env phase transitionTime cs c.preTasks m

/-- `transition_post_tasks`. -/
def transitionPostTasks (phase : Phase) (transitionTime : Int) (cs : ControlState) (m : Machine) :
    Option (Bool × Machine) :=
  c.transitionTasks env phase transitionTime cs c.postTasks m

/-- The loop of `dispatch_pre_tasks` and `dispatch_post_tasks`. -/
def dispatchTasks (controlTime : Int) : List Nat → Machine → Option (Int × Machine)
  | [], m => some (nanoTMax, m)
  | i :: tasks, m => do
      let (active, m) ← c.ask env (.isActive i) m
      if active then
        let m ← c.callback env (.dispatch i controlTime) m
        let (next, m) ← dispatchTasks controlTime tasks m
        return (min (env (.dispatch i controlTime)).time next, m)
      else dispatchTasks controlTime tasks m

/-- `dispatch_pre_tasks`. -/
def dispatchPreTasks (controlTime : Int) (m : Machine) : Option (Int × Machine) :=
  c.dispatchTasks env controlTime c.preTasks m

/-- `dispatch_post_tasks`. -/
def dispatchPostTasks (controlTime : Int) (m : Machine) : Option (Int × Machine) :=
  c.dispatchTasks env controlTime c.postTasks m

/-! ## State changes -/

/-- The elements that `set_state` records the new state in. -/
def recordState (e : SlateElements) (newStateNum : Nat) : SlateElements :=
  { e with
    olderState := e.oldState
    oldState := e.curState
    eventSequenceTime := 0
    curState := newStateNum }

/-- `set_state`. -/
def setState (newStateNum cmdIndex : Nat) (transitionTime : Int)
    (transitionPre transitionPost startSeq : Bool) (m : Machine) : Option (Bool × Machine) := do
  fswAssert (transitionTime ≠ nanoTMax)
  let currentState := m.slate.curState
  -- the message needs the name of the command
  if c.verbose ∧ c.cmdTable.lookupIndex cmdIndex = none then return (false, m)
  match c.state[newStateNum]? with
  | none => return (false, m)
  | some ncs =>
      let (preGood, m) ←
        onlyIf transitionPre (c.transitionPreTasks env .now transitionTime ncs) m
      let (postGood, m) ←
        onlyIf transitionPost (c.transitionPostTasks env .now transitionTime ncs) m
      let (endGood, m) ←
        onlyIf (newStateNum ≠ currentState) (c.ask env (.endSeqs currentState)) m
      let (startGood, m) ←
        onlyIf (startSeq ∧ ncs.seqs ≠ [])
          (c.ask env (.startSeqs .now newStateNum transitionTime)) m
      let m := { m with slate := recordState m.slate newStateNum }.log
        (.stateSet cmdIndex newStateNum)
      let m ← c.callback env (.stateSig newStateNum) m
      return (preGood && postGood && endGood && startGood, m)

/-- `handle_pending_cmd_aux`. -/
def handlePendingCmdAux (transitionTime : Int) (transitionPre transitionPost startSeq : Bool)
    (m : Machine) : Option (Bool × Machine) :=
  let pendingIndex := m.slate.pendingCmdIndex
  if transitionTime = nanoTMax then some (false, m)
  else if pendingIndex = c.noop then some (false, m)
  else
    match c.state[m.slate.curState]? with
    | none => some (false, m)
    | some cs =>
        match cs.cmds[pendingIndex]? with
        | none => some (false, m)
        | some ns =>
            if ns = undefinedState ∨ ns = ignoreState ∨ c.state.length ≤ ns then some (false, m)
            else
              c.setState env ns pendingIndex transitionTime transitionPre transitionPost startSeq m

/-- What `handle_pending_cmd` leaves of the pending command, whether or not it succeeded. -/
def clearPending (e : SlateElements) : SlateElements :=
  { e with pendingCmdIndex := c.noop, nominalTransitionTime := nanoTMax }

/-- `handle_pending_cmd`. -/
def handlePendingCmd (transitionTime : Int) (transitionPre transitionPost startSeq : Bool)
    (m : Machine) : Option (Bool × Machine) := do
  fswAssert (m.slate.pendingCmdIndex ≠ c.noop)
  let (ret, m) ←
    c.handlePendingCmdAux env transitionTime transitionPre transitionPost startSeq m
  return (ret, { m with slate := c.clearPending m.slate })

/-! ## Dispatching -/

/-- The part of both `dispatch` functions that runs the event sequences of the current state and
issues the timeout command when they have ended: the time that `dispatch_seqs` returned and the
verdict on the timeout command, if the state has event sequences and if they have ended. -/
def dispatchSequence (cs : ControlState) (controlTime : Int) (m : Machine) :
    Option ((Option Int × Option Verdict) × Machine) :=
  if cs.seqs = [] then some ((none, none), m)
  else do
    let cb := Callback.dispatchSeqs .now m.slate.curState controlTime
    let m ← c.callback env cb m
    let m := { m with slate := { m.slate with eventSequenceTime := (env cb).currentTime } }
    if (env cb).time = nanoTMax then
      let (verdict, m) ← c.submit ⟨.timeout, controlTime, c.timeoutCmd⟩ m
      return ((some (env cb).time, some verdict), m)
    else return ((some (env cb).time, none), m)

/-- `AsyncStateMachine::dispatch`. -/
def asyncDispatch (controlTime : Int) (m : Machine) : Option (Int × Machine) := do
  let (nextEvent, m) ← c.dispatchPreTasks env controlTime m
  let due := decide (m.slate.nominalTransitionTime ≤ controlTime)
  let (_, m) ←
    onlyIf due (c.handlePendingCmd env m.slate.nominalTransitionTime true true true) m
  let nextEvent := if due then nanoTMin else nextEvent
  match c.state[m.slate.curState]? with
  | none => return (nextEvent, m)
  | some cs =>
      let ((t, verdict), m) ← c.dispatchSequence env cs controlTime m
      let nextEvent := min nextEvent (t.getD nanoTMax)
      let timedOut := verdict.any fun v => v.ok && decide (v.response = .accept)
      let nextEvent :=
        if timedOut ∧ m.slate.pendingCmdIndex ≠ c.noop then nanoTMin else nextEvent
      let (t, m) ← c.dispatchPostTasks env controlTime m
      return (min (min nextEvent t) m.slate.nominalTransitionTime, m)

/-- The end of `SyncStateMachine::dispatch` when a command is pending: the pre tasks are
transitioned to the next state and its event sequences are started. `none` is the early return
that leaves `last_pending_cmd_index` alone. -/
def pullInNextState (cs : ControlState) (controlTime : Int) (m : Machine) :
    Option (Option Machine) :=
  match cs.cmds[m.slate.pendingCmdIndex]? with
  | none => some none
  | some newStateNum =>
      match c.state[newStateNum]? with
      | none => some (some m)
      | some ncs => do
          let (_, m) ← c.transitionPreTasks env .ahead controlTime ncs m
          let (good, m) ← c.ask env (.startSeqs .ahead newStateNum controlTime) m
          if good then
            let m ← c.callback env (.dispatchSeqs .ahead newStateNum controlTime) m
            return some m
          else return some m

/-- Saves the pending command for the next dispatch. -/
def saveLastPending (m : Machine) : Machine :=
  { m with slate := { m.slate with lastPendingCmdIndex := m.slate.pendingCmdIndex } }

/-- `SyncStateMachine::dispatch`, which always returns `nano_t_max`. -/
def syncDispatch (controlTime : Int) (m : Machine) : Option Machine := do
  let (_, m) ← c.dispatchPreTasks env controlTime m
  let partialTransition := decide (m.slate.lastPendingCmdIndex ≠ c.noop)
  fswAssert (!partialTransition ∨
    partialTransition ∧ m.slate.lastPendingCmdIndex = m.slate.pendingCmdIndex)
  let transitionThisCycle := decide (m.slate.pendingCmdIndex ≠ c.noop)
  let (_, m) ←
    onlyIf transitionThisCycle
      (c.handlePendingCmd env controlTime (!partialTransition) false (!partialTransition)) m
  fswAssert (m.slate.pendingCmdIndex = c.noop)
  fswAssert (m.slate.nominalTransitionTime = nanoTMax)
  match c.state[m.slate.curState]? with
  | none => return m
  | some cs =>
      let (_, m) ←
        onlyIf (transitionThisCycle && partialTransition)
          (c.transitionPostTasks env .now controlTime cs) m
      let (_, m) ← c.dispatchSequence env cs controlTime m
      let (_, m) ←
        onlyIf (transitionThisCycle && !partialTransition)
          (c.transitionPostTasks env .now controlTime cs) m
      let (_, m) ← c.dispatchPostTasks env controlTime m
      if m.slate.pendingCmdIndex ≠ c.noop then
        match ← c.pullInNextState env cs controlTime m with
        | none => return m
        | some m => return saveLastPending m
      else return saveLastPending m

/-- `SettableSyncStateMachine::force_state`, given the event sequence time as a `nano_t`. -/
def forceState (controlTime : Int) (stateNum : Nat) (curEventSeqTime : Int) (m : Machine) :
    Option (Bool × Machine) := do
  let m := { m with slate := { c.clearPending m.slate with lastPendingCmdIndex := c.noop } }
  let (good, m) ←
    c.setState env stateNum c.noop (controlTime - curEventSeqTime) true true true m
  if good then
    return (true, { m with slate := { m.slate with eventSequenceTime := curEventSeqTime } })
  else return (false, m)

/-! ## Runs -/

/-- The elements as `init_storage` creates them. -/
def createdElements : SlateElements where
  pendingCmdIndex := c.noop
  nominalTransitionTime := nanoTMax
  curState := 0
  oldState := -1
  olderState := -1
  lastPendingCmdIndex := c.noop
  eventSequenceTime := 0

/-- `set_initial_state`: runs the event sequences of the initial state and announces it. A failing
`start_seqs` makes the initialisation fail. -/
def start : Option Machine := do
  let cs ← c.state[0]?
  let (good, m) ←
    onlyIf (cs.seqs ≠ []) (c.ask env (.startSeqs .now 0 c.initialControlTime))
      ⟨c.createdElements, []⟩
  if good then
    let (_, m) ←
      onlyIf (cs.seqs ≠ []) (c.ask env (.dispatchSeqs .now 0 c.initialControlTime)) m
    c.callback env (.stateSig 0) m
  else none

end Config

/-- What may be done to a running state machine. -/
inductive Op where
  | command (call : CmdCall)
  | dispatch (controlTime : Int) (env : Environment)
  | forceState (controlTime : Int) (stateNum : Nat) (curEventSeqTime : Int) (env : Environment)

/-- One operation. -/
def Config.step (c : Config) (flavor : Flavor) (m : Machine) : Op → Option Machine
  | .command call => (c.submit ⟨.outside, call⟩ m).map Prod.snd
  | .dispatch controlTime env =>
      match flavor with
      | .async => (c.asyncDispatch env controlTime m).map Prod.snd
      | .sync | .settableSync => c.syncDispatch env controlTime m
  | .forceState controlTime stateNum curEventSeqTime env =>
      (c.forceState env controlTime stateNum curEventSeqTime m).map Prod.snd

/-- A sequence of operations. -/
def Config.run (c : Config) (flavor : Flavor) (ops : List Op) (m : Machine) : Option Machine :=
  ops.foldlM (c.step flavor) m

/-- An operation of a run, with the machines before and after it. -/
structure Step where
  before : Machine
  op : Op
  after : Machine

/-- The operations of a run, in order, up to the first that aborts. -/
def Config.steps (c : Config) (flavor : Flavor) : List Op → Machine → List Step
  | [], _ => []
  | op :: ops, m =>
      match c.step flavor m op with
      | none => []
      | some m' => ⟨m, op, m'⟩ :: steps c flavor ops m'

/-- A dispatch of a run: what it found, what it was given and what it appended to the trace. -/
structure Dispatched where
  found : SlateElements
  controlTime : Int
  env : Environment
  events : List Event

/-- The dispatch that a step is, if it is one. -/
def Step.dispatched? (s : Step) : Option Dispatched :=
  match s.op with
  | .dispatch controlTime env =>
      some ⟨s.before.slate, controlTime, env, s.after.trace.drop s.before.trace.length⟩
  | _ => none

/-- The dispatches of a run, in order. -/
def Config.dispatches (c : Config) (flavor : Flavor) (ops : List Op) (m : Machine) :
    List Dispatched :=
  (c.steps flavor ops m).filterMap Step.dispatched?

/-- A step of a run is taken from a machine that the run reaches. -/
theorem Config.mem_steps {c : Config} {flavor : Flavor} {ops : List Op} {m : Machine} {s : Step}
    (h : s ∈ c.steps flavor ops m) :
    ∃ before, before ++ [s.op] <+: ops ∧ c.run flavor before m = some s.before ∧
      c.step flavor s.before s.op = some s.after := by
  induction ops generalizing m with
  | nil => cases h
  | cons op ops ih =>
      simp only [steps] at h
      split at h
      next => cases h
      next m' hstep =>
      rcases List.mem_cons.1 h with rfl | hrest
      · exact ⟨[], by simp, rfl, hstep⟩
      · obtain ⟨before, hinitial, hrun, hlast⟩ := ih hrest
        refine ⟨op :: before, List.cons_prefix_cons.2 ⟨rfl, hinitial⟩, ?_, hlast⟩
        simpa [run, hstep] using hrun

/-- Every dispatch listed is one of the run. -/
theorem Config.mem_dispatches {c : Config} {flavor : Flavor} {ops : List Op} {m : Machine}
    {x : Dispatched} (h : x ∈ c.dispatches flavor ops m) :
    ∃ before m₁ m₂, before ++ [.dispatch x.controlTime x.env] <+: ops ∧
      c.run flavor before m = some m₁ ∧
      c.step flavor m₁ (.dispatch x.controlTime x.env) = some m₂ ∧
      x.found = m₁.slate ∧ x.events = m₂.trace.drop m₁.trace.length := by
  obtain ⟨⟨m₁, op, m₂⟩, hs, hx⟩ := List.mem_filterMap.1 h
  obtain ⟨before, hinitial, hrun, hstep⟩ := mem_steps hs
  cases op with
  | dispatch controlTime env =>
      cases hx
      exact ⟨before, m₁, m₂, hinitial, hrun, hstep, rfl, rfl⟩
  | command call => cases hx
  | forceState controlTime stateNum curEventSeqTime env => cases hx

/-- What every operation keeps, a run keeps. -/
theorem Config.run_induction {c : Config} {flavor : Flavor} {P : Machine → Prop} {ops : List Op}
    {m m' : Machine} (hm : P m)
    (hstep : ∀ op ∈ ops, ∀ {m m'}, P m → c.step flavor m op = some m' → P m')
    (h : c.run flavor ops m = some m') : P m' := by
  induction ops generalizing m with
  | nil =>
      cases h
      exact hm
  | cons op ops ih =>
      obtain ⟨m₁, hfirst, hrest⟩ := Option.bind_eq_some_iff.1 h
      refine ih (hstep op (by simp) hm hfirst) (fun o ho => hstep o ?_) hrest
      exact List.mem_cons_of_mem _ ho

namespace Sample

/-- Outside code that issues no command, with event sequences that go on. -/
def quiet : Environment := fun _ => { time := nanoTMin }

/-- The sample machine starts. -/
theorem start_some (flavor : Flavor) : ((config flavor).start quiet).isSome := by
  cases flavor <;> decide

/-- The sample machine after a quiet initialisation. -/
def started (flavor : Flavor) : Machine := ((config flavor).start quiet).get (start_some flavor)

/-- What it starts as. -/
theorem start_eq (flavor : Flavor) : (config flavor).start quiet = some (started flavor) :=
  (Option.some_get _).symm

end Sample

end Codon.StateMachine
