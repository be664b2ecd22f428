import Codon.StateMachine.Transitions

/-!
# Every task is called in its turn

In a synchronous dispatch each active task is dispatched once, pre tasks before their
transition callbacks and post tasks after them (`sync_parts_ordered`). Over a run, each
change of the state comes with one transition callback to every task, which carries what
the new state asks of the task (`Config.Rostered`): a pre task has got its callback when
the state changes, a post task gets it before it is dispatched again.
-/

namespace Codon.StateMachine

open Codon.Library

/-! ## The order within a dispatch -/

/-- A list of callbacks in which task `i` is not dispatched after it has been transitioned. -/
def DispatchedFirst (i : Nat) (cbs : List Callback) : Prop :=
  cbs.Pairwise fun a b => (a.transitionTo? i).isSome → b.dispatchOf? i = none

/-- A list of callbacks in which task `i` is not transitioned after it has been dispatched. -/
def TransitionedFirst (i : Nat) (cbs : List Callback) : Prop :=
  cbs.Pairwise fun a b => (a.dispatchOf? i).isSome → b.transitionTo? i = none

/-- In a list without transitions of the task no callback is one. -/
theorem transition_to_eq_none {i : Nat} {cbs : List Callback} (h : transitionsTo i cbs = [])
    {cb : Callback} (hcb : cb ∈ cbs) : cb.transitionTo? i = none :=
  List.filterMap_eq_nil_iff.1 h cb hcb

/-- In a list without dispatches of the task no callback is one. -/
theorem dispatch_of_eq_none {i : Nat} {cbs : List Callback} (h : dispatchesOf i cbs = [])
    {cb : Callback} (hcb : cb ∈ cbs) : cb.dispatchOf? i = none :=
  List.filterMap_eq_nil_iff.1 h cb hcb

/-- Callbacks cut between dispatches and transitions have the dispatches first. -/
theorem dispatched_first_of_cut {i : Nat} {cbs cbs' : List Callback}
    (hleft : transitionsTo i cbs = []) (hright : dispatchesOf i cbs' = []) :
    DispatchedFirst i (cbs ++ cbs') := by
  refine List.pairwise_append.2 ⟨?_, ?_, fun a _ b hb _ => dispatch_of_eq_none hright hb⟩
  · refine List.pairwise_of_forall_mem_list fun a ha b _ htransition => ?_
    rw [transition_to_eq_none hleft ha] at htransition
    cases htransition
  · exact List.pairwise_of_forall_mem_list fun a _ b hb _ => dispatch_of_eq_none hright hb

/-- Callbacks cut between transitions and dispatches have the transitions first. -/
theorem transitioned_first_of_cut {i : Nat} {cbs cbs' : List Callback}
    (hleft : dispatchesOf i cbs = []) (hright : transitionsTo i cbs' = []) :
    TransitionedFirst i (cbs ++ cbs') := by
  refine List.pairwise_append.2 ⟨?_, ?_, fun a _ b hb _ => transition_to_eq_none hright hb⟩
  · refine List.pairwise_of_forall_mem_list fun a ha b _ hdispatch => ?_
    rw [dispatch_of_eq_none hleft ha] at hdispatch
    cases hdispatch
  · exact List.pairwise_of_forall_mem_list fun a _ b hb _ => transition_to_eq_none hright hb

namespace Config

variable {c : Config} {env : Environment} {m m₁ m₂ m₃ m' : Machine} {controlTime : Int}
  {cs : ControlState} {d₁ d₂ d₃ d₄ : List Event}

/-- The dispatches of task `i` in the four parts of a dispatch. -/
theorem SyncParts.dispatches (htime : controlTime ≠ nanoTMax)
    (hlawful : c.verbose → c.cmdTable.Lawful) (hm : c.Executable m.slate)
    (h : SyncParts c env controlTime m m₁ m₂ m₃ m' cs d₁ d₂ d₃ d₄) (i : Nat) :
    dispatchesOf i (calledBack d₁) =
        (if i ∈ c.preTasks ∧ (env (.isActive i)).ok then [controlTime] else []) ∧
      dispatchesOf i (calledBack d₂) = [] ∧
      dispatchesOf i (calledBack d₃) =
        (if i ∈ c.postTasks ∧ (env (.isActive i)).ok then [controlTime] else []) ∧
      dispatchesOf i (calledBack d₄) = [] := by
  refine ⟨?_, ?_, ?_, ?_⟩
  · rw [h.dispatched.called, dispatches_of_dispatch_calls c.pre_tasks_nodup]
  · rcases h.carried htime hlawful hm with ⟨-, -, rfl⟩ | ⟨-, hx⟩
    · rfl
    · rw [hx.called, dispatches_of_append, dispatches_of_set_state_calls]
      rfl
  · rw [h.after.called, dispatches_of_after_check_calls]
  · cases h.pulled with
    | idle hfree => rfl
    | pulled hbusy hgoes hncs hahead => rw [hahead.called, dispatches_of_pull_in_calls]

/-- A dispatch dispatches every active task once, in the right order with its transitions. -/
theorem sync_parts_ordered (htime : controlTime ≠ nanoTMax)
    (hlawful : c.verbose → c.cmdTable.Lawful) (hm : c.Executable m.slate)
    (h : SyncParts c env controlTime m m₁ m₂ m₃ m' cs d₁ d₂ d₃ d₄) {i : Nat}
    (hi : i < c.numTasks) :
    dispatchesOf i (calledBack (d₁ ++ d₂ ++ d₃ ++ d₄)) =
        (if (env (.isActive i)).ok then [controlTime] else []) ∧
      (i ∈ c.preTasks → DispatchedFirst i (calledBack (d₁ ++ d₂ ++ d₃ ++ d₄))) ∧
      (i ∈ c.postTasks → TransitionedFirst i (calledBack (d₁ ++ d₂ ++ d₃ ++ d₄))) := by
  obtain ⟨ht₁, ht₂, ht₃, ht₄⟩ := h.transitions htime hlawful hm i
  obtain ⟨hd₁, hd₂, hd₃, hd₄⟩ := h.dispatches htime hlawful hm i
  have hsplit : i ∈ c.preTasks ∧ i ∉ c.postTasks ∨ i ∉ c.preTasks ∧ i ∈ c.postTasks := by
    rw [mem_pre_tasks, mem_post_tasks]
    omega
  refine ⟨?_, fun hpre => ?_, fun hpost => ?_⟩
  · simp only [called_back_append, dispatches_of_append, hd₁, hd₂, hd₃, hd₄, List.append_nil]
    rcases hsplit with ⟨hpre, hpost⟩ | ⟨hpre, hpost⟩
    · simp [hpre, hpost]
    · simp [hpre, hpost]
  · have hpost : i ∉ c.postTasks := by
      rcases hsplit with hleft | hright
      · exact hleft.2
      · exact absurd hpre hright.1
    rw [if_neg fun hboth => hpost hboth.1] at hd₃
    rw [List.append_assoc, List.append_assoc, called_back_append]
    refine dispatched_first_of_cut ht₁ ?_
    simp only [called_back_append, dispatches_of_append, hd₂, hd₃, hd₄, List.append_nil]
  · have hpre : i ∉ c.preTasks := by
      rcases hsplit with hleft | hright
      · exact absurd hpost hleft.2
      · exact hright.1
    rw [if_neg fun hboth => hpre hboth.1] at hd₁
    rw [if_neg hpre] at ht₄
    obtain ⟨before, hbefore, hcut, -⟩ := after_check_calls_cut i _ h.state_eq
      (decide (m₁.slate.pendingCmdIndex ≠ c.noop))
      (decide (m₁.slate.lastPendingCmdIndex ≠ c.noop))
    rw [called_back_append, called_back_append, called_back_append, h.after.called, hbefore,
      ← List.append_assoc, List.append_assoc]
    refine transitioned_first_of_cut ?_ ?_
    · simp only [dispatches_of_append, hd₁, hd₂, hcut, List.append_nil]
    · rw [transitions_to_append, transitions_to_dispatch_calls, ht₄, List.append_nil]

/-! ## The books of one task -/

/-- A line of the trace in the books of a pre task: its transition callbacks are completed by the
state changes. -/
def preEntry (c : Config) (i : Nat) : Event → Option (Entry (Option TaskInfo))
  | .callback cb _ => (cb.transitionTo? i).map fun info => .asked (some info)
  | .stateSet _ x => some (.done (c.taskInfo x i))
  | .command _ _ _ => none

/-- The books of a pre task. -/
def preLedger (c : Config) (i : Nat) (d : List Event) : List (Entry (Option TaskInfo)) :=
  d.filterMap (c.preEntry i)

/-- A callback in the books of a post task. -/
def postLine (i : Nat) : Callback → Option (Entry (Option TaskInfo))
  | .transition _ _ task info => if task = i then some (.done (some info)) else none
  | .dispatch task _ => if task = i then some .idle else none
  | _ => none

/-- A line of the trace in the books of a post task: a state change asks for a transition callback,
and the task must not be dispatched before it has got it. -/
def postEntry (c : Config) (i : Nat) : Event → Option (Entry (Option TaskInfo))
  | .callback cb _ => postLine i cb
  | .stateSet _ x => some (.asked (c.taskInfo x i))
  | .command _ _ _ => none

/-- The books of a post task. -/
def postLedger (c : Config) (i : Nat) (d : List Event) : List (Entry (Option TaskInfo)) :=
  d.filterMap (c.postEntry i)

/-- What a pre task has been asked ahead of the transition. -/
def preOwed (c : Config) (i : Nat) (e : SlateElements) : Option (Option TaskInfo) :=
  if e.lastPendingCmdIndex = c.noop then none
  else (c.outstanding e).map fun p => c.taskInfo p.2 i

@[simp] theorem pre_ledger_append (i : Nat) (d d' : List Event) :
    c.preLedger i (d ++ d') = c.preLedger i d ++ c.preLedger i d' := List.filterMap_append

@[simp] theorem post_ledger_append (i : Nat) (d d' : List Event) :
    c.postLedger i (d ++ d') = c.postLedger i d ++ c.postLedger i d' := List.filterMap_append

/-- Without a state change the books of a pre task are its transition callbacks. -/
theorem pre_ledger_eq {d : List Event} (h : stateSets d = []) (i : Nat) :
    c.preLedger i d = (transitionsTo i (calledBack d)).map fun info => .asked (some info) := by
  induction d with
  | nil => rfl
  | cons ev d ih =>
      cases ev with
      | callback cb seen =>
          have hd : stateSets d = [] := h
          have htail := ih hd
          simp only [preLedger, calledBack, transitionsTo, List.filterMap_cons, preEntry] at htail ⊢
          cases hcb : cb.transitionTo? i with
          | none => simpa [hcb] using htail
          | some info => simpa [hcb] using htail
      | command issue verdict left => exact ih h
      | stateSet k x => cases h

/-- Without a state change the books of a post task are its callbacks. -/
theorem post_ledger_eq {d : List Event} (h : stateSets d = []) (i : Nat) :
    c.postLedger i d = (calledBack d).filterMap (postLine i) := by
  induction d with
  | nil => rfl
  | cons ev d ih =>
      cases ev with
      | callback cb seen =>
          have hd : stateSets d = [] := h
          have htail := ih hd
          simp only [postLedger, calledBack, List.filterMap_cons, postEntry] at htail ⊢
          rw [htail]
      | command issue verdict left => exact ih h
      | stateSet k x => cases h

/-- Without dispatches, the lines of a post task are its transitions. -/
theorem post_lines_of_no_dispatch {i : Nat} {cbs : List Callback} (h : dispatchesOf i cbs = []) :
    cbs.filterMap (postLine i) = (transitionsTo i cbs).map fun info => .done (some info) := by
  induction cbs with
  | nil => rfl
  | cons cb cbs ih =>
      have hcb := dispatch_of_eq_none h List.mem_cons_self
      have htail := ih (List.filterMap_eq_nil_iff.2 fun cb' hcb' =>
        dispatch_of_eq_none h (List.mem_cons_of_mem cb hcb'))
      simp only [transitionsTo, List.filterMap_cons] at htail ⊢
      cases cb with
      | transition phase time task info =>
          by_cases htask : task = i
          · simpa [postLine, Callback.transitionTo?, htask] using htail
          · simpa [postLine, Callback.transitionTo?, htask] using htail
      | dispatch task time =>
          have htask : task ≠ i := by
            rintro rfl
            simp [Callback.dispatchOf?] at hcb
          simpa [postLine, Callback.transitionTo?, htask] using htail
      | isActive task => exact htail
      | endSeqs state => exact htail
      | startSeqs phase state time => exact htail
      | dispatchSeqs phase state time => exact htail
      | stateSig state => exact htail

/-- Without transitions, the lines of a post task are idle. -/
theorem post_lines_of_no_transition {i : Nat} {cbs : List Callback}
    (h : transitionsTo i cbs = []) :
    cbs.filterMap (postLine i) = (dispatchesOf i cbs).map fun _ => .idle := by
  induction cbs with
  | nil => rfl
  | cons cb cbs ih =>
      have hcb := transition_to_eq_none h List.mem_cons_self
      have htail := ih (List.filterMap_eq_nil_iff.2 fun cb' hcb' =>
        transition_to_eq_none h (List.mem_cons_of_mem cb hcb'))
      simp only [dispatchesOf, List.filterMap_cons] at htail ⊢
      cases cb with
      | transition phase time task info =>
          have htask : task ≠ i := by
            rintro rfl
            simp [Callback.transitionTo?] at hcb
          simpa [postLine, Callback.dispatchOf?, htask] using htail
      | dispatch task time =>
          by_cases htask : task = i
          · simpa [postLine, Callback.dispatchOf?, htask] using htail
          · simpa [postLine, Callback.dispatchOf?, htask] using htail
      | isActive task => exact htail
      | endSeqs state => exact htail
      | startSeqs phase state time => exact htail
      | dispatchSeqs phase state time => exact htail
      | stateSig state => exact htail

/-- The books of all tasks: every state change so far has had its transition callbacks, pre tasks
may have got one ahead, and no post task was dispatched while it waited for one. -/
structure Rostered (c : Config) (m : Machine) : Prop where
  executable : c.Executable m.slate
  last_agrees : c.LastAgrees m.slate
  pre : ∀ i ∈ c.preTasks, Settles none (c.preLedger i m.trace) (c.preOwed i m.slate)
  post : ∀ i ∈ c.postTasks, Settles none (c.postLedger i m.trace) none

/-- What is owed to a pre task survives a stretch. -/
theorem pre_owed_eq {d : List Event} {cbs : List Callback} {cmds : List Issue}
    (h : Stretch c m m' d cbs cmds) (hlast : c.LastAgrees m.slate) (i : Nat) :
    c.preOwed i m'.slate = c.preOwed i m.slate := by
  unfold preOwed
  rw [h.last_pending_eq]
  split_ifs with hnone
  · rfl
  · rw [h.outstanding_eq, hear_of_busy (hlast hnone ▸ hnone)]

/-- A stretch in which no task is transitioned or dispatched leaves the books alone. -/
theorem Rostered.stretch (hlawful : c.verbose → c.cmdTable.Lawful) {d : List Event}
    {cbs : List Callback} {cmds : List Issue} (h : Stretch c m m' d cbs cmds)
    (htransitions : ∀ i, transitionsTo i cbs = []) (hdispatches : ∀ i, dispatchesOf i cbs = [])
    (hm : c.Rostered m) : c.Rostered m' where
  executable := h.executable hlawful hm.executable
  last_agrees := h.last_agrees hm.last_agrees
  pre i hi := by
    rw [h.trace_eq, pre_ledger_append, pre_ledger_eq h.state_sets, h.called, htransitions,
      pre_owed_eq h hm.last_agrees]
    simpa using hm.pre i hi
  post i hi := by
    rw [h.trace_eq, post_ledger_append, post_ledger_eq h.state_sets, h.called,
      post_lines_of_no_dispatch (hdispatches i), htransitions]
    simpa using hm.post i hi

/-- The roster is right at the start. -/
theorem start_rostered (hc : c.Valid) (hlawful : c.verbose → c.cmdTable.Lawful)
    (h : c.start env = some m) : c.Rostered m := by
  obtain ⟨d, cs, hd⟩ := start_stretch h
  have hcreated : c.Rostered ⟨c.createdElements, []⟩ := by
    refine ⟨created_executable hc, fun hlast => absurd rfl hlast, fun i _ => ?_, fun i _ => .nil _⟩
    have hnone : c.preOwed i c.createdElements = none := if_pos rfl
    rw [hnone]
    exact .nil _
  refine hcreated.stretch hlawful hd (fun i => ?_) fun i => ?_
  · simp only [startCalls, transitions_to_append, transitions_to_ite]
    split_ifs <;> rfl
  · simp only [startCalls, dispatches_of_append, dispatches_of_ite]
    split_ifs <;> rfl

/-- A state change completes the transition callback of a pre task, which comes with it or was
made ahead. -/
theorem SyncParts.pre_changed (hc : c.Valid) (htime : controlTime ≠ nanoTMax)
    (hlawful : c.verbose → c.cmdTable.Lawful) (hm : c.Executable m.slate)
    (h : SyncParts c env controlTime m m₁ m₂ m₃ m' cs d₁ d₂ d₃ d₄) {i : Nat}
    (hi : i ∈ c.preTasks) : Settles (c.preOwed i m₁.slate) (c.preLedger i d₂) none := by
  rcases h.carried htime hlawful hm with ⟨hfree, -, rfl⟩ | ⟨hbusy, hx⟩
  · have hnone : m₁.slate.lastPendingCmdIndex = c.noop := by
      by_contra hlast
      exact hlast ((h.resumed hlast).trans hfree)
    rw [preOwed, if_pos hnone]
    exact .nil _
  · obtain ⟨before, after, rfl, hbefore, hafter, hsets₁, hsets₂⟩ := hx.events
    have hnum : i < c.numTasks := (mem_pre_tasks.1 hi).trans_le hc.pre_le
    obtain ⟨info, hinfo⟩ := hc.task_info_some (List.getElem?_eq_some_iff.1 h.state_eq).1 hnum
    have hdone : c.preLedger i [.stateSet m₁.slate.pendingCmdIndex m₂.slate.curState] =
        [.done (some info)] := by
      simp [preLedger, preEntry, hinfo]
    have hsig : transitionsTo i [.stateSig m₂.slate.curState] = [] := rfl
    rw [pre_ledger_append, pre_ledger_append, pre_ledger_eq hsets₁, pre_ledger_eq hsets₂, hbefore,
      hafter, hdone, hsig, transitions_to_set_state_calls i _ _ h.state_eq, hinfo]
    by_cases hnone : m₁.slate.lastPendingCmdIndex = c.noop
    · rw [preOwed, if_pos hnone]
      simp only [hnone, decide_true, hi, and_self, if_true]
      exact .asked (.done (.nil _))
    · rw [preOwed, if_neg hnone, hx.goes.outstanding_eq hbusy, Option.map_some, hinfo]
      simp only [hnone, decide_false, Bool.false_eq_true, false_and, if_false]
      exact .done (.nil _)

/-- Pulling in the next state makes the transition callbacks of the pre tasks ahead. -/
theorem SyncParts.pre_pulled (hc : c.Valid)
    (h : SyncParts c env controlTime m m₁ m₂ m₃ m' cs d₁ d₂ d₃ d₄) {i : Nat}
    (hi : i ∈ c.preTasks) : Settles none (c.preLedger i d₄) (c.preOwed i m'.slate) := by
  cases h.pulled with
  | idle hfree =>
      have hnone : c.preOwed i (saveLastPending m₃).slate = none := if_pos hfree
      rw [hnone]
      exact .nil _
  | @pulled x ncs n d hbusy hgoes hncs hahead =>
      have hnum : i < c.numTasks := (mem_pre_tasks.1 hi).trans_le hc.pre_le
      obtain ⟨info, hinfo⟩ := hc.task_info_some hgoes.lt_length hnum
      have hpending : n.slate.pendingCmdIndex ≠ c.noop :=
        (hahead.pending_of_busy hbusy).trans_ne hbusy
      have howed : c.preOwed i (saveLastPending n).slate = some (some info) := by
        have hout : c.outstanding n.slate = some (m₃.slate.pendingCmdIndex, x) := by
          rw [hahead.outstanding_eq, hear_of_busy hbusy, hgoes.outstanding_eq hbusy]
        have heq : c.preOwed i (saveLastPending n).slate =
            (c.outstanding n.slate).map fun p => c.taskInfo p.2 i := if_neg hpending
        rw [heq, hout, Option.map_some, hinfo]
      rw [howed, pre_ledger_eq hahead.state_sets, hahead.called,
        transitions_to_pull_in_calls i x hncs, if_pos hi, hinfo]
      exact .asked (.nil _)

/-- The third part of a dispatch gives a post task its transition callback and then dispatches
it. -/
theorem SyncParts.post_called (hc : c.Valid) (htime : controlTime ≠ nanoTMax)
    (hlawful : c.verbose → c.cmdTable.Lawful) (hm : c.Executable m.slate)
    (h : SyncParts c env controlTime m m₁ m₂ m₃ m' cs d₁ d₂ d₃ d₄) {i : Nat}
    (hi : i ∈ c.postTasks) : Settles none (c.postLedger i d₂ ++ c.postLedger i d₃) none := by
  have hpre : i ∉ c.preTasks := fun hmem =>
    absurd (mem_pre_tasks.1 hmem) (mem_post_tasks.1 hi).1.not_gt
  obtain ⟨before, hbefore, hcut, htransitions⟩ := after_check_calls_cut i _ h.state_eq
    (decide (m₁.slate.pendingCmdIndex ≠ c.noop)) (decide (m₁.slate.lastPendingCmdIndex ≠ c.noop))
  have hidle : Settles none ((dispatchCalls env controlTime c.postTasks).filterMap (postLine i))
      none := by
    rw [post_lines_of_no_transition (transitions_to_dispatch_calls i env controlTime c.postTasks)]
    exact .idle_lines _
  rw [post_ledger_eq h.after.state_sets, h.after.called, hbefore, List.filterMap_append,
    post_lines_of_no_dispatch hcut, htransitions, ← List.append_assoc]
  refine .append ?_ hidle
  rcases h.carried htime hlawful hm with ⟨hfree, -, rfl⟩ | ⟨hbusy, hx⟩
  · simp only [hfree, ne_eq, not_true_eq_false, decide_false, Bool.false_eq_true, false_and,
      if_false, List.map_nil, List.append_nil]
    exact .nil none
  · obtain ⟨before₂, after₂, rfl, hbefore₂, hafter₂, hsets₁, hsets₂⟩ := hx.events
    have hnum : i < c.numTasks := (mem_post_tasks.1 hi).2
    obtain ⟨info, hinfo⟩ := hc.task_info_some (List.getElem?_eq_some_iff.1 h.state_eq).1 hnum
    have hasked : c.postLedger i [.stateSet m₁.slate.pendingCmdIndex m₂.slate.curState] =
        [.asked (some info)] := by
      simp [postLedger, postEntry, hinfo]
    have hsig : [Callback.stateSig m₂.slate.curState].filterMap (postLine i) = [] := rfl
    rw [post_ledger_append, post_ledger_append, post_ledger_eq hsets₁, post_ledger_eq hsets₂,
      hbefore₂, hafter₂, hasked, hsig,
      post_lines_of_no_dispatch (dispatches_of_set_state_calls i _ _ _ _ _ _ _),
      transitions_to_set_state_calls i _ _ h.state_eq, if_neg fun hboth => hpre hboth.2, hinfo]
    simp only [hbusy, ne_eq, not_false_eq_true, decide_true, hi, and_self, if_true]
    exact .asked (.done (.nil _))

/-- A dispatch keeps the books of all tasks. -/
theorem sync_parts_rostered (hc : c.Valid) (htime : controlTime ≠ nanoTMax)
    (hlawful : c.verbose → c.cmdTable.Lawful) (hm : c.Rostered m)
    (h : SyncParts c env controlTime m m₁ m₂ m₃ m' cs d₁ d₂ d₃ d₄) : c.Rostered m' := by
  have hm₁ := h.dispatched.executable hlawful hm.executable
  have hm₂ : c.Executable m₂.slate := by
    rcases h.carried htime hlawful hm.executable with ⟨-, rfl, -⟩ | ⟨-, hx⟩
    · exact hm₁
    · exact hx.executable
  have hm₃ := h.after.executable hlawful hm₂
  obtain ⟨hm', hlast⟩ : c.Executable m'.slate ∧ c.LastAgrees m'.slate := by
    cases h.pulled with
    | idle hfree => exact ⟨⟨hm₃.cur_state_lt, hm₃.leads, hm₃.known⟩, fun _ => rfl⟩
    | pulled hbusy hgoes hncs hahead =>
        have hm₄ := hahead.executable hlawful hm₃
        exact ⟨⟨hm₄.cur_state_lt, hm₄.leads, hm₄.known⟩, fun _ => rfl⟩
  refine ⟨hm', hlast, fun i hi => ?_, fun i hi => ?_⟩
  · obtain ⟨ht₁, -, ht₃, -⟩ := h.transitions htime hlawful hm.executable i
    -- a pre task is called with its dispatch, and when the next state is pulled in
    have hpost : i ∉ c.postTasks := fun hmem =>
      absurd (mem_pre_tasks.1 hi) (mem_post_tasks.1 hmem).1.not_gt
    rw [if_neg fun hboth => hpost hboth.2] at ht₃
    rw [h.trace_eq, pre_ledger_append, pre_ledger_append, pre_ledger_append, pre_ledger_append,
      pre_ledger_eq h.dispatched.state_sets, ht₁, pre_ledger_eq h.after.state_sets, ht₃,
      List.map_nil, List.nil_append, List.append_nil]
    refine (hm.pre i hi).append (.append ?_ (h.pre_pulled hc hi))
    rw [← pre_owed_eq h.dispatched hm.last_agrees]
    exact h.pre_changed hc htime hlawful hm.executable hi
  · have hpre : i ∉ c.preTasks := fun hmem =>
      absurd (mem_pre_tasks.1 hmem) (mem_post_tasks.1 hi).1.not_gt
    -- a post task is not called before the transition
    have hfirst : c.postLedger i d₁ = [] := by
      rw [post_ledger_eq h.dispatched.state_sets, h.dispatched.called,
        post_lines_of_no_transition (transitions_to_dispatch_calls i env controlTime c.preTasks),
        dispatches_of_dispatch_calls c.pre_tasks_nodup, if_neg fun hboth => hpre hboth.1]
      rfl
    -- nor when the next state is pulled in
    have hlast : c.postLedger i d₄ = [] := by
      cases h.pulled with
      | idle hfree => rfl
      | pulled hbusy hgoes hncs hahead =>
          rw [post_ledger_eq hahead.state_sets, hahead.called,
            post_lines_of_no_dispatch (dispatches_of_pull_in_calls i _ _),
            transitions_to_pull_in_calls i _ hncs, if_neg hpre]
          rfl
    rw [h.trace_eq, post_ledger_append, post_ledger_append, post_ledger_append,
      post_ledger_append, hfirst, hlast, List.nil_append, List.append_nil]
    exact (hm.post i hi).append (h.post_called hc htime hlawful hm.executable hi)

/-- Every operation keeps it. -/
theorem step_rostered (hc : c.Valid) (hlawful : c.verbose → c.cmdTable.Lawful) {flavor : Flavor}
    (hflavor : flavor ≠ .async) {op : Op} (hop : op.Regular) (hm : c.Rostered m)
    (h : c.step flavor m op = some m') : c.Rostered m' := by
  cases op with
  | command call =>
      obtain ⟨⟨verdict, m₁⟩, hsubmit, rfl⟩ := Option.map_eq_some_iff.1 h
      exact hm.stretch hlawful (Stretch.submit hsubmit) (fun _ => rfl) fun _ => rfl
  | dispatch controlTime env =>
      obtain ⟨m₁, m₂, m₃, cs, d₁, d₂, d₃, d₄, hparts⟩ :=
        sync_step_parts hflavor hm.executable.cur_state_lt h
      exact sync_parts_rostered hc hop hlawful hm hparts
  | forceState controlTime stateNum curEventSeqTime env => cases hop

/-- The books of a pre task as lists: what it was called with, and what the state changes asked. -/
theorem pre_ledger_lists (i : Nat) (d : List Event) :
    requests (c.preLedger i d) = (transitionsTo i (calledBack d)).map some ∧
      completions (c.preLedger i d) = (stateSets d).map fun p => c.taskInfo p.2 i := by
  induction d with
  | nil => exact ⟨rfl, rfl⟩
  | cons ev d ih =>
      obtain ⟨hrequests, hcompletions⟩ := ih
      cases ev with
      | callback cb seen =>
          cases hcb : cb.transitionTo? i with
          | none =>
              simp only [preLedger, calledBack, transitionsTo, stateSets, List.filterMap_cons,
                preEntry, hcb, Option.map_none] at hrequests hcompletions ⊢
              exact ⟨hrequests, hcompletions⟩
          | some info =>
              simp only [preLedger, calledBack, transitionsTo, stateSets, List.filterMap_cons,
                preEntry, hcb, Option.map_some, requests_asked, completions_asked,
                List.map_cons] at hrequests hcompletions ⊢
              exact ⟨by rw [hrequests], hcompletions⟩
      | command issue verdict left => exact ⟨hrequests, hcompletions⟩
      | stateSet k x =>
          refine ⟨hrequests, ?_⟩
          change c.taskInfo x i :: completions (c.preLedger i d) = _
          rw [hcompletions]
          rfl

/-- The books of a post task as lists. -/
theorem post_ledger_lists (i : Nat) (d : List Event) :
    requests (c.postLedger i d) = ((stateSets d).map fun p => c.taskInfo p.2 i) ∧
      completions (c.postLedger i d) = (transitionsTo i (calledBack d)).map some := by
  induction d with
  | nil => exact ⟨rfl, rfl⟩
  | cons ev d ih =>
      obtain ⟨hrequests, hcompletions⟩ := ih
      cases ev with
      | callback cb seen =>
          simp only [postLedger, calledBack, transitionsTo, stateSets, List.filterMap_cons,
            postEntry] at hrequests hcompletions ⊢
          cases cb with
          | transition phase time task info =>
              by_cases htask : task = i
              · simp only [postLine, Callback.transitionTo?, htask, if_true, requests_done,
                  completions_done, List.map_cons]
                exact ⟨hrequests, by rw [hcompletions]⟩
              · simpa only [postLine, Callback.transitionTo?, htask, if_false] using
                  ⟨hrequests, hcompletions⟩
          | dispatch task time =>
              by_cases htask : task = i
              · simpa only [postLine, Callback.transitionTo?, htask, if_true, requests_idle,
                  completions_idle] using ⟨hrequests, hcompletions⟩
              · simpa only [postLine, Callback.transitionTo?, htask, if_false] using
                  ⟨hrequests, hcompletions⟩
          | isActive task => exact ⟨hrequests, hcompletions⟩
          | endSeqs state => exact ⟨hrequests, hcompletions⟩
          | startSeqs phase state time => exact ⟨hrequests, hcompletions⟩
          | dispatchSeqs phase state time => exact ⟨hrequests, hcompletions⟩
          | stateSig state => exact ⟨hrequests, hcompletions⟩
      | command issue verdict left => exact ⟨hrequests, hcompletions⟩
      | stateSet k x =>
          refine ⟨?_, hcompletions⟩
          -- only a state that is set asks something of a post task
          change c.taskInfo x i :: requests (c.postLedger i d) = _
          rw [hrequests]
          rfl

end Config

/-- In a run of a synchronous machine every active task is dispatched once in a dispatch, a pre task
before and a post task after its transition callbacks there; and every state change comes with one
transition callback to each task that carries what the new state asks of the task. A pre task has
got its callback when the state changes, a post task gets it before it is dispatched again. -/
theorem tasks_called_in_turn {flavor : Flavor} (hflavor : flavor ≠ .async) {inp : Inputs}
    {c : Config} (hinit : init flavor inp = some c) (hlawful : c.verbose → c.cmdTable.Lawful)
    {env₀ : Environment} {m₀ : Machine} (hstart : c.start env₀ = some m₀) {ops : List Op}
    (hops : ∀ op ∈ ops, op.Regular) :
    (∀ x ∈ c.dispatches flavor ops m₀, ∀ i < c.numTasks,
      dispatchesOf i (calledBack x.events) =
          (if (x.env (.isActive i)).ok then [x.controlTime] else []) ∧
        (i ∈ c.preTasks → DispatchedFirst i (calledBack x.events)) ∧
        (i ∈ c.postTasks → TransitionedFirst i (calledBack x.events))) ∧
    ∀ m, c.run flavor ops m₀ = some m →
      (∀ i ∈ c.preTasks, Settles none (c.preLedger i m.trace) (c.preOwed i m.slate) ∧
        (transitionsTo i (calledBack m.trace)).map some =
          ((stateSets m.trace).map fun p => c.taskInfo p.2 i) ++ (c.preOwed i m.slate).toList) ∧
      ∀ i ∈ c.postTasks, Settles none (c.postLedger i m.trace) none ∧
        (transitionsTo i (calledBack m.trace)).map some =
          (stateSets m.trace).map fun p => c.taskInfo p.2 i := by
  have hc := init_valid hinit
  have hreached {before : List Op} {m : Machine} (hbefore : ∀ op ∈ before, op.Regular)
      (hrun : c.run flavor before m₀ = some m) : c.Rostered m := by
    refine Config.run_induction (Config.start_rostered hc hlawful hstart) ?_ hrun
    intro op hop m m' hm hstep
    exact Config.step_rostered hc hlawful hflavor (hbefore op hop) hm hstep
  constructor
  · intro x hx i hi
    obtain ⟨before, m, m', hinitial, hrun, hstep, hfound, hevents⟩ := Config.mem_dispatches hx
    have hregular (op : Op) (hop : op ∈ before ++ [.dispatch x.controlTime x.env]) : op.Regular :=
      hops op (hinitial.subset hop)
    have hm := hreached (fun op hop => hregular op (List.mem_append_left _ hop)) hrun
    have htime : x.controlTime ≠ nanoTMax :=
      hregular (.dispatch x.controlTime x.env)
        (List.mem_append_right _ (List.mem_singleton.2 rfl))
    obtain ⟨m₁, m₂, m₃, cs, d₁, d₂, d₃, d₄, hparts⟩ :=
      Config.sync_step_parts hflavor hm.executable.cur_state_lt hstep
    rw [hevents, hparts.trace_eq, List.drop_left]
    exact Config.sync_parts_ordered htime hlawful hm.executable hparts hi
  · intro m hrun
    have hm := hreached hops hrun
    refine ⟨fun i hi => ⟨hm.pre i hi, ?_⟩, fun i hi => ⟨hm.post i hi, ?_⟩⟩
    · obtain ⟨hrequests, hcompletions⟩ := c.pre_ledger_lists i m.trace
      simpa [hrequests, hcompletions] using (hm.pre i hi).balance
    · obtain ⟨hrequests, hcompletions⟩ := c.post_ledger_lists i m.trace
      simpa [hrequests, hcompletions] using (hm.post i hi).balance.symm

/-- The sample machine with an eager post task: the pre task `nav` is called with what `idle` asks
of it and, ahead, with what `active` asks of it. -/
theorem tasks_called_in_turn_sample :
    ∃ m ∈ (Sample.config .sync).run .sync (Sample.sendToIdle Sample.eager) (Sample.started .sync),
      (Settles none ((Sample.config .sync).preLedger 0 m.trace)
          ((Sample.config .sync).preOwed 0 m.slate) ∧
        (transitionsTo 0 (calledBack m.trace)).map some =
          ((stateSets m.trace).map fun p => (Sample.config .sync).taskInfo p.2 0) ++
            ((Sample.config .sync).preOwed 0 m.slate).toList) ∧
      transitionsTo 0 (calledBack m.trace) = [⟨.on, true, []⟩, ⟨.cmd, true, ["aim"]⟩] := by
  obtain ⟨m, hrun⟩ := Option.isSome_iff_exists.1 (show ((Sample.config .sync).run .sync
    (Sample.sendToIdle Sample.eager) (Sample.started .sync)).isSome by decide)
  have hcalled : ∀ m ∈ (Sample.config .sync).run .sync (Sample.sendToIdle Sample.eager)
      (Sample.started .sync),
      transitionsTo 0 (calledBack m.trace) = [⟨.on, true, []⟩, ⟨.cmd, true, ["aim"]⟩] := by
    decide
  refine ⟨m, hrun, ?_, hcalled m hrun⟩
  exact ((tasks_called_in_turn (by decide) (Sample.init_eq .sync)
    (fun _ => Sample.lawful .sync) (Sample.start_eq .sync)
    (Sample.send_to_idle_regular Sample.eager)).2 m hrun).1 0 (by decide)

end Codon.StateMachine
