import Codon.Core

/-!
# What a state machine is configured with

Commands, control states and the build-time members of `StateMachine`. Nothing
here changes once `init` has succeeded.

`vehicle_cmd.h`, `CommandTable.h`, `ControlState.h` and `Periodic.h` are not part
of the source tree. What `StateMachine.cc` uses of them appears as data: a command
is its name, its index and whether it is the invalid command, a command table is
its lookups, a control state is the vectors and the duration that the state machine
reads, and `Periodic::calculate_next_time` is a function the machine is given.
-/

namespace Codon.StateMachine

/-- `vehicle_cmd_t`, as far as the state machine looks into it. -/
structure VehicleCmd where
  name : String
  index : Nat
  isInvalid : Bool := false
deriving DecidableEq

/-- `CommandTable`: the no-op command's index, membership, and lookup by name and by index. -/
structure CommandTable where
  numCommands : Nat
  noopCmdIndex : Nat
  check : VehicleCmd → Bool
  lookup : String → Option VehicleCmd
  lookupIndex : Nat → Option VehicleCmd

/-- `vehicle_cmd_t::is_noop`. -/
def CommandTable.isNoop (table : CommandTable) (cmd : VehicleCmd) : Bool :=
  cmd.index == table.noopCmdIndex

/-- A command that belongs to the table is found again under its index. -/
def CommandTable.Lawful (table : CommandTable) : Prop :=
  ∀ cmd, table.check cmd → (table.lookupIndex cmd.index).isSome

/-- `ctask_state_t`: what a state asks of a control task. -/
inductive CtaskState where
  | off
  | on
  | cont
  | cmd
deriving DecidableEq

/-- `ControlState::task_info`. A task that a state file does not mention is off. -/
structure TaskInfo where
  state : CtaskState := .off
  isInit : Bool := false
  args : List String := []
deriving DecidableEq

/-- The part of `ControlState` that `StateMachine` reads: the state each command leads to, what
each task is asked to do, the names of the event sequences and their common duration. -/
structure ControlState where
  cmds : List Nat
  tasks : List TaskInfo
  seqs : List String
  duration : Int
  timeoutIgnored : Bool
deriving DecidableEq

/-- The build-time members of `StateMachine`. `verbose` is `dbverbose() >= local_verbosity`. -/
structure Config where
  cmdTable : CommandTable
  timeoutCmd : VehicleCmd
  transitionPeriod : Int
  initialControlTime : Int
  calculateNextTime : Int → Int → Int
  verbose : Bool
  numTasks : Nat
  numPreTransitionCtasks : Nat
  state : List ControlState

/-- `StateMachine::undefined_state`, `UINT_MAX`. -/
def undefinedState : Nat := 2 ^ 32 - 1

/-- `StateMachine::ignore_state`, `UINT_MAX - 1`. -/
def ignoreState : Nat := 2 ^ 32 - 2

namespace Config

/-- The table entry `state[s]->cmds[k]`. -/
def entry (c : Config) (s k : Nat) : Option Nat := do
  let cs ← c.state[s]?
  cs.cmds[k]?

/-- `noop_cmd_index`. -/
abbrev noop (c : Config) : Nat := c.cmdTable.noopCmdIndex

/-- The pre-transition tasks, in the order in which they were added. -/
def preTasks (c : Config) : List Nat := List.range c.numPreTransitionCtasks

/-- The post-transition tasks, in the order in which they were added. -/
def postTasks (c : Config) : List Nat :=
  List.range' c.numPreTransitionCtasks (c.numTasks - c.numPreTransitionCtasks)

/-- What `Periodic::calculate_next_time` promises: the next cycle boundary strictly after `t`.
`t` ranges over the times around which one period can be added and subtracted in a `nano_t`. -/
def PeriodicSpec (c : Config) : Prop :=
  ∀ t, nanoTMin + c.transitionPeriod ≤ t → t + c.transitionPeriod ≤ nanoTMax →
    t < c.calculateNextTime t c.transitionPeriod ∧
      c.calculateNextTime t c.transitionPeriod ≤ t + c.transitionPeriod

/-- A reading of the control clock: one period around it stays within `nano_t`, and it is not
the "never" sentinel. -/
def ClockTime (c : Config) (t : Int) : Prop :=
  nanoTMin + c.transitionPeriod ≤ t ∧ t + c.transitionPeriod ≤ nanoTMax ∧ t < nanoTMax

/-- What a successful `init` leaves behind: there is a state, every state has an entry for every
task, no command leads back to the initial state, and the pre-transition tasks are tasks. -/
structure Valid (c : Config) : Prop where
  state_pos : 0 < c.state.length
  tasks_length : ∀ cs ∈ c.state, cs.tasks.length = c.numTasks
  entry_ne_zero : ∀ s k ns, c.entry s k = some ns → ns ≠ 0
  pre_le : c.numPreTransitionCtasks ≤ c.numTasks

/-- The entry for a command is in the table of the state. -/
theorem entry_eq {c : Config} {s k : Nat} {cs : ControlState} (h : c.state[s]? = some cs) :
    c.entry s k = cs.cmds[k]? := by
  simp [entry, h]

/-- The tasks before the transition are the first ones. -/
theorem mem_pre_tasks {c : Config} {i : Nat} :
    i ∈ c.preTasks ↔ i < c.numPreTransitionCtasks := by
  simp [preTasks]

/-- The tasks after the transition are the others. -/
theorem mem_post_tasks {c : Config} {i : Nat} :
    i ∈ c.postTasks ↔ c.numPreTransitionCtasks ≤ i ∧ i < c.numTasks := by
  simp only [postTasks, List.mem_range'_1]
  omega

/-- Each task before the transition is listed once. -/
theorem pre_tasks_nodup (c : Config) : c.preTasks.Nodup := List.nodup_range

/-- So is each task after it. -/
theorem post_tasks_nodup (c : Config) : c.postTasks.Nodup := List.nodup_range'

end Config

end Codon.StateMachine
