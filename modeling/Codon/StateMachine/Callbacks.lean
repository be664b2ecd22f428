import Codon.StateMachine.Execution

/-!
# Which tasks a dispatch calls back, how often and in which order

The callbacks of a synchronous dispatch are a list that the parts of the dispatch
determine. Here that list is read for one control task: the transition callbacks that
the task gets (`transitionsTo`) and the times it is dispatched (`dispatchesOf`).
-/

namespace Codon.StateMachine

/-- The information of a transition callback to task `i`. -/
def Callback.transitionTo? (i : Nat) : Callback → Option TaskInfo
  | .transition _ _ task info => if task = i then some info else none
  | _ => none

/-- The time of a dispatch of task `i`. -/
def Callback.dispatchOf? (i : Nat) : Callback → Option Int
  | .dispatch task controlTime => if task = i then some controlTime else none
  | _ => none

/-- The transition callbacks to task `i`, in order. -/
def transitionsTo (i : Nat) (cbs : List Callback) : List TaskInfo :=
  cbs.filterMap (Callback.transitionTo? i)

/-- The dispatches of task `i`, in order. -/
def dispatchesOf (i : Nat) (cbs : List Callback) : List Int :=
  cbs.filterMap (Callback.dispatchOf? i)

@[simp] theorem transitions_to_nil (i : Nat) : transitionsTo i [] = [] := rfl

@[simp] theorem dispatches_of_nil (i : Nat) : dispatchesOf i [] = [] := rfl

@[simp] theorem transitions_to_append (i : Nat) (cbs cbs' : List Callback) :
    transitionsTo i (cbs ++ cbs') = transitionsTo i cbs ++ transitionsTo i cbs' :=
  List.filterMap_append

@[simp] theorem dispatches_of_append (i : Nat) (cbs cbs' : List Callback) :
    dispatchesOf i (cbs ++ cbs') = dispatchesOf i cbs ++ dispatchesOf i cbs' :=
  List.filterMap_append

/-- Calls that are made under a condition transition the task only then. -/
theorem transitions_to_ite (i : Nat) (cond : Prop) [Decidable cond] (cbs : List Callback) :
    transitionsTo i (if cond then cbs else []) = if cond then transitionsTo i cbs else [] := by
  split_ifs <;> rfl

/-- Calls that are made under a condition dispatch the task only then. -/
theorem dispatches_of_ite (i : Nat) (cond : Prop) [Decidable cond] (cbs : List Callback) :
    dispatchesOf i (if cond then cbs else []) = if cond then dispatchesOf i cbs else [] := by
  split_ifs <;> rfl

/-! ## The lists of one task -/

/-- A transition loop calls each of its tasks once. -/
theorem transitions_to_transition_calls {tasks : List Nat} (hnodup : tasks.Nodup) (i : Nat)
    (phase : Phase) (transitionTime : Int) (cs : ControlState) :
    transitionsTo i (transitionCalls phase transitionTime cs tasks) =
      if i ∈ tasks then (cs.tasks[i]?).toList else [] := by
  induction tasks with
  | nil => rfl
  | cons j tasks ih =>
      obtain ⟨hfresh, hnodup⟩ := List.nodup_cons.1 hnodup
      have htail := ih hnodup
      unfold transitionCalls at htail ⊢
      by_cases hij : j = i
      · subst hij
        rw [if_neg hfresh] at htail
        cases hinfo : cs.tasks[j]? with
        | none => simpa [hinfo] using htail
        | some info => simpa [hinfo, transitionsTo, Callback.transitionTo?] using htail
      · have hmem : i ∈ j :: tasks ↔ i ∈ tasks := by simp [Ne.symm hij]
        simp only [hmem]
        rw [← htail]
        cases hinfo : cs.tasks[j]? with
        | none => simp [hinfo]
        | some info => simp [hinfo, transitionsTo, Callback.transitionTo?, hij]

/-- A transition dispatches no task. -/
theorem dispatches_of_transition_calls (i : Nat) (phase : Phase) (transitionTime : Int)
    (cs : ControlState) (tasks : List Nat) :
    dispatchesOf i (transitionCalls phase transitionTime cs tasks) = [] := by
  unfold dispatchesOf transitionCalls
  rw [List.filterMap_filterMap, List.filterMap_eq_nil_iff]
  intro j _
  cases cs.tasks[j]? <;> rfl

/-- Dispatching tasks transitions none. -/
theorem transitions_to_dispatch_calls (i : Nat) (env : Environment) (controlTime : Int)
    (tasks : List Nat) : transitionsTo i (dispatchCalls env controlTime tasks) = [] := by
  induction tasks with
  | nil => rfl
  | cons j tasks ih =>
      rw [dispatchCalls, List.flatMap_cons, transitions_to_append]
      unfold dispatchCalls at ih
      rw [ih, List.append_nil]
      split_ifs <;> rfl

/-- A dispatch loop dispatches each of its active tasks once. -/
theorem dispatches_of_dispatch_calls {tasks : List Nat} (hnodup : tasks.Nodup) (i : Nat)
    (env : Environment) (controlTime : Int) :
    dispatchesOf i (dispatchCalls env controlTime tasks) =
      if i ∈ tasks ∧ (env (.isActive i)).ok then [controlTime] else [] := by
  induction tasks with
  | nil => simp [dispatchCalls]
  | cons j tasks ih =>
      obtain ⟨hfresh, hnodup⟩ := List.nodup_cons.1 hnodup
      have htail := ih hnodup
      rw [dispatchCalls, List.flatMap_cons, dispatches_of_append]
      unfold dispatchCalls at htail
      rw [htail]
      by_cases hij : j = i
      · subst hij
        by_cases hactive : (env (.isActive j)).ok = true
        · simp [hactive, hfresh, dispatchesOf, Callback.dispatchOf?, List.filterMap_cons]
        · simp [hactive, dispatchesOf, Callback.dispatchOf?]
      · have hmem : i ∈ j :: tasks ↔ i ∈ tasks := by simp [Ne.symm hij]
        simp only [hmem]
        split_ifs <;> simp [dispatchesOf, Callback.dispatchOf?, hij]

namespace Config

variable {c : Config} {env : Environment} {controlTime : Int}

/-- What state `x` asks of task `i`. -/
def taskInfo (c : Config) (x i : Nat) : Option TaskInfo := do
  let cs ← c.state[x]?
  cs.tasks[i]?

/-- What is configured for a task in a state that exists. -/
theorem task_info_eq {x i : Nat} {cs : ControlState} (h : c.state[x]? = some cs) :
    c.taskInfo x i = cs.tasks[i]? := by
  simp [taskInfo, h]

/-- A state has an entry for every task. -/
theorem Valid.task_info_some (hc : c.Valid) {x i : Nat} (hx : x < c.state.length)
    (hi : i < c.numTasks) : ∃ info, c.taskInfo x i = some info := by
  have hcs := List.getElem?_eq_getElem hx
  rw [task_info_eq hcs]
  have hlength := hc.tasks_length _ (List.getElem_mem hx)
  exact ⟨_, List.getElem?_eq_getElem (by omega)⟩

/-- Setting a state transitions a task once, if the pre tasks are transitioned and it is one of
them. -/
theorem transitions_to_set_state_calls (i old x : Nat) {ncs : ControlState}
    (hncs : c.state[x]? = some ncs) (transitionTime : Int) (pre start : Bool) :
    transitionsTo i (c.setStateCalls old x ncs transitionTime pre false start) =
      if pre ∧ i ∈ c.preTasks then (c.taskInfo x i).toList else [] := by
  rw [task_info_eq hncs]
  simp only [setStateCalls, transitions_to_append, transitions_to_ite,
    transitions_to_transition_calls c.pre_tasks_nodup]
  have hend : transitionsTo i [.endSeqs old] = [] := rfl
  have hstart : transitionsTo i [.startSeqs .now x transitionTime] = [] := rfl
  simp only [hend, hstart, ite_self, List.append_nil, Bool.false_eq_true, if_false]
  by_cases hpre : pre = true <;> simp [hpre]

/-- Setting a state dispatches no task. -/
theorem dispatches_of_set_state_calls (i old x : Nat) (ncs : ControlState)
    (transitionTime : Int) (pre post start : Bool) :
    dispatchesOf i (c.setStateCalls old x ncs transitionTime pre post start) = [] := by
  simp only [setStateCalls, dispatches_of_append, dispatches_of_ite,
    dispatches_of_transition_calls, ite_self, List.nil_append]
  have hend : dispatchesOf i [.endSeqs old] = [] := rfl
  have hstart : dispatchesOf i [.startSeqs .now x transitionTime] = [] := rfl
  simp only [hend, hstart, ite_self, List.append_nil]

/-- Pulling in the next state transitions each pre task once. -/
theorem transitions_to_pull_in_calls (i x : Nat) {ncs : ControlState}
    (hncs : c.state[x]? = some ncs) :
    transitionsTo i (c.pullInCalls env x ncs controlTime) =
      if i ∈ c.preTasks then (c.taskInfo x i).toList else [] := by
  rw [task_info_eq hncs, pullInCalls, transitions_to_append,
    transitions_to_transition_calls c.pre_tasks_nodup]
  have hrest : transitionsTo i (.startSeqs .ahead x controlTime ::
      if (env (.startSeqs .ahead x controlTime)).ok then [.dispatchSeqs .ahead x controlTime]
      else []) = [] := by
    split_ifs <;> rfl
  rw [hrest, List.append_nil]

/-- Pulling in the next state dispatches no task. -/
theorem dispatches_of_pull_in_calls (i x : Nat) (ncs : ControlState) :
    dispatchesOf i (c.pullInCalls env x ncs controlTime) = [] := by
  rw [pullInCalls, dispatches_of_append, dispatches_of_transition_calls, List.nil_append]
  split_ifs <;> rfl

/-- After the check for a command the post tasks are transitioned, once each, if there was a
transition. -/
theorem transitions_to_after_check_calls (i x : Nat) {cs : ControlState}
    (hcs : c.state[x]? = some cs) (transitioned resumed : Bool) :
    transitionsTo i (afterCheckCalls c env x cs controlTime transitioned resumed) =
      if transitioned ∧ i ∈ c.postTasks then (c.taskInfo x i).toList else [] := by
  have hseqs : transitionsTo i (sequenceCalls x cs controlTime) = [] := by
    unfold sequenceCalls
    split_ifs <;> rfl
  rw [task_info_eq hcs]
  simp only [afterCheckCalls, transitions_to_append, transitions_to_ite, hseqs,
    transitions_to_transition_calls c.post_tasks_nodup, transitions_to_dispatch_calls]
  cases transitioned <;> cases resumed <;> simp

/-- After the check for a command the active post tasks are dispatched, once each. -/
theorem dispatches_of_after_check_calls (i x : Nat) (cs : ControlState)
    (transitioned resumed : Bool) :
    dispatchesOf i (afterCheckCalls c env x cs controlTime transitioned resumed) =
      if i ∈ c.postTasks ∧ (env (.isActive i)).ok then [controlTime] else [] := by
  have hseqs : dispatchesOf i (sequenceCalls x cs controlTime) = [] := by
    unfold sequenceCalls
    split_ifs <;> rfl
  simp only [afterCheckCalls, dispatches_of_append, dispatches_of_ite, hseqs,
    dispatches_of_transition_calls, dispatches_of_dispatch_calls c.post_tasks_nodup, ite_self,
    List.nil_append]

/-- After its check a dispatch first transitions and then dispatches the post tasks. -/
theorem after_check_calls_cut (i x : Nat) {cs : ControlState} (hcs : c.state[x]? = some cs)
    (transitioned resumed : Bool) :
    ∃ before, afterCheckCalls c env x cs controlTime transitioned resumed =
        before ++ dispatchCalls env controlTime c.postTasks ∧
      dispatchesOf i before = [] ∧
      transitionsTo i before =
        if transitioned ∧ i ∈ c.postTasks then (c.taskInfo x i).toList else [] := by
  refine ⟨_, rfl, ?_, ?_⟩
  · have hseqs : dispatchesOf i (sequenceCalls x cs controlTime) = [] := by
      unfold sequenceCalls
      split_ifs <;> rfl
    simp only [dispatches_of_append, dispatches_of_ite, dispatches_of_transition_calls, hseqs,
      ite_self, List.append_nil]
  · have hwhole : transitionsTo i
        (afterCheckCalls c env x cs controlTime transitioned resumed) = _ :=
      transitions_to_after_check_calls i x hcs transitioned resumed
    rwa [afterCheckCalls, transitions_to_append, transitions_to_dispatch_calls,
      List.append_nil] at hwhole

end Config

end Codon.StateMachine
