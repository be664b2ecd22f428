import Codon.StateMachine.Graph

/-!
# Building a state machine from its configuration files

`init_storage`, `init` and the flavour-specific `init_finalize`, from the words of
the master file and of the state files to the table the runtime reads. `none` means
that initialisation fails, by a `return false` or by an assertion. The main result
is `init_valid`: whatever `init` accepts satisfies `Config.Valid`.

The slate elements that `init_storage` creates start with fixed values, which
`Runtime.lean` states. The event files themselves, `multi_seq_devices` and the check
that state names hash differently are not modelled: they can only make
initialisation fail.
-/

namespace Codon.StateMachine

/-- The three classes that can be instantiated. -/
inductive Flavor where
  | async
  | sync
  | settableSync
deriving DecidableEq

/-- What a state machine is built from. `stateFile` gives a state's file as lines of words,
`duration` is what the event sequences of the state last, and `validateTask` is the answer of
the task's own `validate_start`, `validate_stop` or `validate_cmd`. -/
structure Inputs where
  cmdTable : CommandTable
  transitionPeriod : Int
  initialControlTime : Int
  calculateNextTime : Int → Int → Int
  verbose : Bool
  preTransitionCtasks : List String
  postTransitionCtasks : List String
  master : List String
  stateFile : String → List (List String)
  duration : String → Int
  validateTask : String → TaskInfo → Bool

namespace Inputs

/-- `ctask_sym`: the control tasks in the order in which `add_ctask` was called. -/
def ctasks (inp : Inputs) : List String :=
  inp.preTransitionCtasks ++ inp.postTransitionCtasks

/-- What `init_storage` adds to `state_sym`: the states, and then the pseudo-state. -/
def stateSym (inp : Inputs) : List (String × Nat) := inp.master.zipIdx ++ [("ignore", ignoreState)]

/-- `lookup_state`. A name keeps the number it was added with first, so a state called "ignore"
hides the pseudo-state. -/
def lookupState (inp : Inputs) (name : String) : Option Nat := inp.stateSym.lookup name

/-- `lookup_cstate`. -/
def lookupCstate : String → Option CtaskState
  | "off" => some .off
  | "on" => some .on
  | "cont" => some .cont
  | "cmd" => some .cmd
  | _ => none

/-- `initialize_state_from_file`: the sequence names of a state file. A file has at most one
`seq` directive, which names at least one sequence and none twice. -/
def initializeStateFromFile : List (List String) → Bool → List String → Option (List String)
  | [], _, seqs => some seqs
  | [] :: _, _, _ => none
  | (word :: args) :: lines, seqSeen, seqs =>
      if word.toList.head? = some '#' then initializeStateFromFile lines seqSeen seqs
      else if word = "seq" then
        if seqSeen then none
        else if args = [] then none
        else if args.Nodup then initializeStateFromFile lines true args
        else none
      else if word = "cmd" ∨ word = "task" then initializeStateFromFile lines seqSeen seqs
      else none

/-- `parse_state_transitions`, with the override of `SettableSyncStateMachine`. -/
def parseStateTransitions (inp : Inputs) (flavor : Flavor) :
    List String → Option (VehicleCmd × Nat)
  | [_, cmdName, stateName] => do
      let cmd ← inp.cmdTable.lookup cmdName
      if flavor = .settableSync ∧ "uncontrollable".toList <:+: cmdName.toList then
        return (cmd, ignoreState)
      let newState ← inp.lookupState stateName
      return (cmd, newState)
  | _ => none

/-- The `cmd` directive of `finalize_state_from_file`. -/
def parseCmdLine (inp : Inputs) (flavor : Flavor) (runAlarmEventSequence : VehicleCmd)
    (words : List String) (cs : ControlState) : Option ControlState := do
  let (cmd, newState) ← inp.parseStateTransitions flavor words
  fswAssert (cmd.index < cs.cmds.length)
  if newState = 0 then none
  else if cmd.isInvalid ∨ inp.cmdTable.isNoop cmd ∨ cmd = runAlarmEventSequence then none
  else if cs.cmds[cmd.index]? ≠ some undefinedState then none
  else return { cs with cmds := cs.cmds.set cmd.index newState }

/-- The `task` directive of `finalize_state_from_file`. -/
def parseTaskLine (inp : Inputs) : List String → ControlState → Option ControlState
  | _ :: taskName :: cstateName :: args, cs => do
      let t ← inp.ctasks.idxOf? taskName
      let state ← lookupCstate cstateName
      let info ← cs.tasks[t]?
      if info.isInit then none
      else if (state = .off ∨ state = .cont) ∧ args ≠ [] then none
      else return { cs with tasks := cs.tasks.set t { state, isInit := true, args } }
  | _, _ => none

/-- The loop of `finalize_state_from_file` over the lines of a state file. -/
def parseLines (inp : Inputs) (flavor : Flavor) (runAlarmEventSequence : VehicleCmd) :
    List (List String) → ControlState → Option ControlState
  | [], cs => some cs
  | words :: lines, cs => do
      let cs ← match words.head? with
        | some "cmd" => inp.parseCmdLine flavor runAlarmEventSequence words cs
        | some "task" => inp.parseTaskLine words cs
        | _ => some cs
      inp.parseLines flavor runAlarmEventSequence lines cs

/-- `finalize_state_from_file`: the directives, then whether the state ignores its timeout. A
timeout needs an event sequence. -/
def finalizeStateFromFile (inp : Inputs) (flavor : Flavor) (timeoutCmd : VehicleCmd)
    (lines : List (List String)) (cs : ControlState) : Option ControlState := do
  let runAlarmEventSequence ← inp.cmdTable.lookup "run_alarm_event_sequence"
  let cs ← inp.parseLines flavor runAlarmEventSequence lines cs
  fswAssert (timeoutCmd.name = "timeout")
  let target ← cs.cmds[timeoutCmd.index]?
  let timeoutIgnored := decide (target = ignoreState ∨ target = undefinedState)
  if timeoutIgnored = false ∧ cs.seqs = [] then none
  else return { cs with timeoutIgnored }

/-- `validate_state`, with the argument count that a command needs. -/
def validateState (inp : Inputs) (isInitialState : Bool) (cs : ControlState) : Bool :=
  (inp.ctasks.zip cs.tasks).all fun (ctask, info) =>
    match info.state with
    | .cmd => inp.validateTask ctask info && decide (1 ≤ info.args.length)
    | .on => inp.validateTask ctask info
    | .off => isInitialState || inp.validateTask ctask info
    | .cont => true

/-- One state of the machine: `ControlState::init` followed by the two passes over its file. -/
def buildState (inp : Inputs) (flavor : Flavor) (timeoutCmd : VehicleCmd) (name : String) :
    Option ControlState := do
  let seqs ← initializeStateFromFile (inp.stateFile name) false []
  inp.finalizeStateFromFile flavor timeoutCmd (inp.stateFile name)
    { cmds := List.replicate inp.cmdTable.numCommands undefinedState
      tasks := List.replicate inp.ctasks.length {}
      seqs
      duration := inp.duration name
      timeoutIgnored := false }

end Inputs

/-- `init_finalize` of the asynchronous flavour. -/
def asyncInitFinalize (c : Config) : Option Bool := c.validateGraph true

/-- The length check of the synchronous flavour for a state that is not the initial one. -/
def Config.lastsOnePeriod (c : Config) (stateIdx : Nat) : Bool :=
  match c.state[stateIdx]? with
  | none => true
  | some cs =>
      cs.seqs.isEmpty || !decide (cs.duration < c.transitionPeriod) ||
        !decide (c.timeoutNext stateIdx < c.state.length)

/-- `init_finalize` of the synchronous flavours. -/
def syncInitFinalize (c : Config) : Option Bool := do
  let good ← c.validateGraph false
  if good then
    fswAssert (c.timeoutCmd.name = "timeout")
    return (List.range' 1 (c.state.length - 1)).all c.lastsOnePeriod
  else return false

/-- `init_finalize`. -/
def initFinalize : Flavor → Config → Option Bool
  | .async => asyncInitFinalize
  | .sync | .settableSync => syncInitFinalize

/-- The requirements that `set_initial_state` puts on the initial state. -/
def Config.initialStateOk (c : Config) : Bool :=
  match c.state[0]? with
  | none => false
  | some cs =>
      decide (cs.duration = 0) && cs.tasks.all (!·.isInit) &&
        (cs.timeoutIgnored ||
          (List.range cs.cmds.length).all fun k =>
            k == c.timeoutCmd.index || cs.cmds[k]? == some undefinedState)

/-- `init_storage` followed by `init`. -/
def init (flavor : Flavor) (inp : Inputs) : Option Config := do
  let timeoutCmd ← inp.cmdTable.lookup "timeout"
  fswAssert (inp.master ≠ [] ∧ inp.master.Nodup)
  let state ← inp.master.mapM (inp.buildState flavor timeoutCmd)
  let c : Config :=
    { cmdTable := inp.cmdTable
      timeoutCmd
      transitionPeriod := inp.transitionPeriod
      initialControlTime := inp.initialControlTime
      calculateNextTime := inp.calculateNextTime
      verbose := inp.verbose
      numTasks := inp.ctasks.length
      numPreTransitionCtasks := inp.preTransitionCtasks.length
      state }
  fswAssert (state.zipIdx.all fun (cs, i) => inp.validateState (i == 0) cs)
  fswAssert (initFinalize flavor c = some true)
  fswAssert c.initialStateOk
  return c

/-! ## What a built machine satisfies -/

/-- What the two passes over a state file keep: no entry is the initial state, and there is one
task entry for every control task. -/
structure ControlState.Parsed (inp : Inputs) (cs : ControlState) : Prop where
  cmds_ne_zero : ∀ k ns : Nat, cs.cmds[k]? = some ns → ns ≠ 0
  tasks_length : cs.tasks.length = inp.ctasks.length

namespace Inputs

variable {inp : Inputs} {flavor : Flavor} {runAlarm : VehicleCmd}

/-- A command line keeps a control state parsed. -/
theorem parse_cmd_line_parsed {words : List String} {cs cs' : ControlState}
    (hcs : cs.Parsed inp) (h : inp.parseCmdLine flavor runAlarm words cs = some cs') :
    cs'.Parsed inp := by
  simp only [parseCmdLine, bind, pure, Option.bind_eq_some_iff, fsw_assert_eq_some,
    exists_const] at h
  obtain ⟨⟨cmd, newState⟩, -, -, h⟩ := h
  split_ifs at h with hzero
  cases h
  refine ⟨fun k ns hk => ?_, hcs.tasks_length⟩
  rw [List.getElem?_set] at hk
  split_ifs at hk
  · cases hk
    exact hzero
  · exact hcs.cmds_ne_zero k ns hk

/-- A task line does. -/
theorem parse_task_line_parsed {words : List String} {cs cs' : ControlState}
    (hcs : cs.Parsed inp) (h : inp.parseTaskLine words cs = some cs') : cs'.Parsed inp := by
  unfold parseTaskLine at h
  split at h
  · simp only [bind, pure, Option.bind_eq_some_iff] at h
    obtain ⟨t, -, state, -, info, -, h⟩ := h
    split_ifs at h
    cases h
    exact ⟨hcs.cmds_ne_zero, by simpa using hcs.tasks_length⟩
  · cases h

/-- Hence all the lines of a state do. -/
theorem parse_lines_parsed {lines : List (List String)} {cs cs' : ControlState}
    (hcs : cs.Parsed inp) (h : inp.parseLines flavor runAlarm lines cs = some cs') :
    cs'.Parsed inp := by
  induction lines generalizing cs with
  | nil =>
      cases h
      exact hcs
  | cons words lines ih =>
      simp only [parseLines, bind] at h
      split at h
      · obtain ⟨middle, hmiddle, h⟩ := Option.bind_eq_some_iff.1 h
        exact ih (parse_cmd_line_parsed hcs hmiddle) h
      · obtain ⟨middle, hmiddle, h⟩ := Option.bind_eq_some_iff.1 h
        exact ih (parse_task_line_parsed hcs hmiddle) h
      · exact ih hcs h

/-- A state that is built is parsed from its lines. -/
theorem build_state_parsed {timeoutCmd : VehicleCmd} {name : String} {cs : ControlState}
    (h : inp.buildState flavor timeoutCmd name = some cs) : cs.Parsed inp := by
  simp only [buildState, finalizeStateFromFile, bind, pure, Option.bind_eq_some_iff,
    fsw_assert_eq_some, exists_const] at h
  obtain ⟨seqs, -, runAlarm, -, parsed, hparsed, -, target, -, h⟩ := h
  have hp : parsed.Parsed inp := by
    refine parse_lines_parsed ⟨fun k ns hk => ?_, by simp⟩ hparsed
    rw [List.getElem?_replicate] at hk
    split_ifs at hk
    cases hk
    decide
  split_ifs at h
  cases h
  exact ⟨hp.cmds_ne_zero, hp.tasks_length⟩

end Inputs

variable {flavor : Flavor} {inp : Inputs} {c : Config}

/-- A successful `mapM` answers every element, and nothing else. -/
theorem mapM_answers {α β : Type} {f : α → Option β} {xs : List α} {ys : List β}
    (h : xs.mapM f = some ys) : List.Forall₂ (fun x y => f x = some y) xs ys := by
  induction xs generalizing ys with
  | nil =>
      cases h
      exact .nil
  | cons x xs ih =>
      simp only [List.mapM_cons, bind, pure, Option.bind_eq_some_iff] at h
      obtain ⟨y, hy, rest, hrest, h⟩ := h
      cases h
      exact .cons hy (ih hrest)

/-- What `init` reads off its inputs and what its last checks establish. -/
theorem init_cases (h : init flavor inp = some c) :
    inp.master ≠ [] ∧ inp.master.mapM (inp.buildState flavor c.timeoutCmd) = some c.state ∧
      c.numTasks = inp.ctasks.length ∧
      c.numPreTransitionCtasks = inp.preTransitionCtasks.length ∧
      initFinalize flavor c = some true := by
  simp only [init, bind, pure, Option.bind_eq_some_iff, fsw_assert_eq_some, exists_const] at h
  obtain ⟨timeoutCmd, -, hmaster, state, hstate, -, hfinal, -, h⟩ := h
  cases h
  exact ⟨hmaster.1, hstate, rfl, rfl, hfinal⟩

/-- The members that `init` takes over from its inputs. -/
theorem init_members (h : init flavor inp = some c) :
    c.cmdTable = inp.cmdTable ∧ c.transitionPeriod = inp.transitionPeriod ∧
      c.calculateNextTime = inp.calculateNextTime := by
  simp only [init, bind, pure, Option.bind_eq_some_iff, fsw_assert_eq_some, exists_const] at h
  obtain ⟨timeoutCmd, -, -, state, -, -, -, -, h⟩ := h
  cases h
  exact ⟨rfl, rfl, rfl⟩

/-- Whatever `init` accepts is a valid configuration. -/
theorem init_valid (h : init flavor inp = some c) : c.Valid := by
  obtain ⟨hmaster, hstate, htasks, hpre, -⟩ := init_cases h
  have hall := mapM_answers hstate
  have hparsed : ∀ cs ∈ c.state, cs.Parsed inp := by
    intro cs hcs
    obtain ⟨i, hi, rfl⟩ := List.getElem_of_mem hcs
    exact Inputs.build_state_parsed (hall.get (by rwa [hall.length_eq]) hi)
  refine ⟨?_, fun cs hcs => (hparsed cs hcs).tasks_length.trans htasks.symm, ?_, ?_⟩
  · rw [← hall.length_eq]
    exact List.length_pos_iff.2 hmaster
  · intro s k ns hentry
    simp only [Config.entry, bind, Option.bind_eq_some_iff] at hentry
    obtain ⟨cs, hcs, hk⟩ := hentry
    exact (hparsed cs (List.mem_of_getElem? hcs)).cmds_ne_zero k ns hk
  · rw [hpre, htasks, Inputs.ctasks, List.length_append]
    exact Nat.le_add_right _ _

/-! ## A machine of three states

Used below where a statement needs a concrete machine. -/

namespace Sample

/-- The names of the commands, by index. -/
def cmdNames : List String :=
  ["noop", "timeout", "run_alarm_event_sequence", "go", "back", "halt"]

/-- The command with a given name. -/
def cmd (name : String) : VehicleCmd := { name, index := cmdNames.idxOf name }

/-- A command table over `cmdNames`. -/
def cmdTable : CommandTable where
  numCommands := 6
  noopCmdIndex := 0
  check cmd := decide (cmdNames[cmd.index]? = some cmd.name)
  lookup name := (cmdNames.idxOf? name).map fun index => { name, index }
  lookupIndex index := cmdNames[index]?.map fun name => { name, index }

/-- The state files: `boot` is left by a command, `idle` times out after one transition period,
`active` after three. -/
def stateFile : String → List (List String)
  | "boot" => [["cmd", "go", "idle"], ["cmd", "halt", "idle"]]
  | "idle" =>
      [["seq", "idle"], ["cmd", "go", "active"], ["cmd", "halt", "idle"],
        ["cmd", "timeout", "active"], ["task", "nav", "on"], ["task", "gnc", "on"]]
  | "active" =>
      [["seq", "active"], ["cmd", "back", "idle"], ["cmd", "halt", "idle"],
        ["cmd", "timeout", "idle"], ["task", "nav", "cmd", "aim"], ["task", "gnc", "cont"]]
  | _ => []

/-- The inputs of the sample machine. -/
def inputs : Inputs where
  cmdTable := cmdTable
  transitionPeriod := 10
  initialControlTime := 0
  calculateNextTime t period := (t / period + 1) * period
  verbose := true
  preTransitionCtasks := ["nav"]
  postTransitionCtasks := ["gnc"]
  master := ["boot", "idle", "active"]
  stateFile := stateFile
  duration
    | "idle" => 10
    | "active" => 30
    | _ => 0
  validateTask _ _ := true

/-- The sample machine is initialised. -/
theorem init_some (flavor : Flavor) : (init flavor inputs).isSome := by
  cases flavor <;> decide

/-- The sample machine. -/
def config (flavor : Flavor) : Config := (init flavor inputs).get (init_some flavor)

/-- The configuration it gets. -/
theorem init_eq (flavor : Flavor) : init flavor inputs = some (config flavor) :=
  (Option.some_get _).symm

/-- Its cycles end where `Periodic` promises. -/
theorem periodic_spec (flavor : Flavor) : (config flavor).PeriodicSpec := by
  obtain ⟨-, hperiod, hnext⟩ := init_members (init_eq flavor)
  intro t _ _
  simp only [hperiod, hnext, inputs]
  omega

/-- Times away from the ends of the clock are times of it. -/
theorem clock_time (flavor : Flavor) {t : Int} (hlow : nanoTMin + 10 ≤ t)
    (hhigh : t + 10 ≤ nanoTMax) : (config flavor).ClockTime t := by
  obtain ⟨-, hperiod, -⟩ := init_members (init_eq flavor)
  simp only [Config.ClockTime, hperiod, inputs]
  omega

/-- Its command table is lawful. -/
theorem lawful (flavor : Flavor) : (config flavor).cmdTable.Lawful := by
  rw [(init_members (init_eq flavor)).1]
  intro cmd hcheck
  have hname : cmdNames[cmd.index]? = some cmd.name := of_decide_eq_true hcheck
  simp [inputs, cmdTable, hname]

end Sample

end Codon.StateMachine
