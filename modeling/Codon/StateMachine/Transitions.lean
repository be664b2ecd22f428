import Codon.StateMachine.Callbacks

/-!
# How many transition callbacks a task gets in one dispatch

A dispatch that carries out a command and then has another one accepted transitions the
pre tasks twice (`Config.Crowded`): once to the state that it goes to and once, ahead,
to the state after that. Every other dispatch gives each task at most one transition
callback.
-/

namespace Codon.StateMachine

open Codon.Library

namespace Config

/-- The state that a dispatch starts by going to: where the pending command leads or, with nothing
pending, the first transition command that a pre task issues. -/
def targetAtCheck (c : Config) (env : Environment) (controlTime : Int) (e : SlateElements) :
    Option Nat :=
  if e.pendingCmdIndex ≠ c.noop then c.entry e.curState e.pendingCmdIndex
  else (env.offers (dispatchCalls env controlTime c.preTasks)).findSome? fun issue =>
    c.leadsTo e.curState issue.call.cmd

/-- A dispatch that transitions the pre tasks twice: it starts a transition at its beginning, and a
command that is issued after the state has changed is a transition in the new state. -/
def Crowded (c : Config) (env : Environment) (controlTime : Int) (e : SlateElements) : Prop :=
  0 < c.numPreTransitionCtasks ∧ e.lastPendingCmdIndex = c.noop ∧
    ∃ x ∈ c.targetAtCheck env controlTime e, ∃ cs ∈ c.state[x]?,
      ∃ issue ∈ afterCheckCmds c env x cs controlTime true false,
        (c.leadsTo x issue.call.cmd).isSome

variable {c : Config} {env : Environment} {m m' : Machine} {controlTime : Int}

/-- A free machine is busy after hearing commands when one of them leads somewhere. -/
theorem hear_busy_iff {e : SlateElements} (hfree : e.pendingCmdIndex = c.noop)
    (cmds : List Issue) :
    (c.hear e cmds).pendingCmdIndex ≠ c.noop ↔
      ∃ issue ∈ cmds, (c.leadsTo e.curState issue.call.cmd).isSome := by
  rw [hear_of_free hfree]
  cases hfind : cmds.find? fun issue => (c.leadsTo e.curState issue.call.cmd).isSome with
  | none =>
      refine iff_of_false (fun hbusy => hbusy hfree) ?_
      rintro ⟨issue, hissue, hleads⟩
      exact List.find?_eq_none.1 hfind issue hissue hleads
  | some issue =>
      have htaken := List.find?_some hfind
      obtain ⟨x, hx⟩ := Option.isSome_iff_exists.1 htaken
      exact iff_of_true (leads_to_eq_some.1 hx).1.2.2
        ⟨issue, List.mem_of_find?_eq_some hfind, htaken⟩

/-- Where the pending command leads after some commands have been handled. -/
theorem outstanding_hear {e : SlateElements} (hfree : e.pendingCmdIndex = c.noop)
    (cmds : List Issue) :
    (c.outstanding (c.hear e cmds)).map Prod.snd =
      cmds.findSome? fun issue => c.leadsTo e.curState issue.call.cmd := by
  induction cmds generalizing e with
  | nil => simp [hear, outstanding, hfree]
  | cons issue cmds ih =>
      rw [hear, List.findSome?_cons]
      cases hleads : c.leadsTo e.curState issue.call.cmd with
      | none =>
          rw [hearOne, if_neg (by simp [hleads])]
          exact ih hfree
      | some x =>
          obtain ⟨⟨-, -, hnoop⟩, hentry, -⟩ := leads_to_eq_some.1 hleads
          rw [hearOne, if_pos ⟨hfree, by simp [hleads]⟩, hear_of_busy hnoop]
          simp [outstanding, accept, hnoop, hentry]

/-! ## One dispatch -/

/-- What is outstanding at the check is what the tasks before it have left. -/
theorem target_at_check_eq {m₁ : Machine} {d : List Event}
    (h : Stretch c m m₁ d (dispatchCalls env controlTime c.preTasks)
      (env.offers (dispatchCalls env controlTime c.preTasks))) :
    c.targetAtCheck env controlTime m.slate = (c.outstanding m₁.slate).map Prod.snd := by
  rw [h.outstanding_eq, targetAtCheck]
  split_ifs with hbusy
  · rw [hear_of_busy hbusy, outstanding, if_neg hbusy, Option.map_map]
    exact Option.map_id'.symm
  · exact (outstanding_hear (not_not.1 hbusy) _).symm

variable {m₁ m₂ m₃ : Machine} {cs : ControlState} {d₁ d₂ d₃ d₄ : List Event}

/-- What the second part of a dispatch does: nothing, or it carries a command out. -/
theorem SyncParts.carried (htime : controlTime ≠ nanoTMax)
    (hlawful : c.verbose → c.cmdTable.Lawful) (hm : c.Executable m.slate)
    (h : SyncParts c env controlTime m m₁ m₂ m₃ m' cs d₁ d₂ d₃ d₄) :
    (m₁.slate.pendingCmdIndex = c.noop ∧ m₂ = m₁ ∧ d₂ = []) ∨
      (m₁.slate.pendingCmdIndex ≠ c.noop ∧
        c.Executed env controlTime (decide (m₁.slate.lastPendingCmdIndex = c.noop)) false
          (decide (m₁.slate.lastPendingCmdIndex = c.noop)) m₁ m₂ d₂ m₂.slate.curState cs) := by
  rcases h.changed with hfree | ⟨hbusy, hchanges⟩
  · exact .inl hfree
  · obtain ⟨x, ncs, hx⟩ := hchanges.executed hbusy htime (h.dispatched.executable hlawful hm)
    obtain rfl := hx.cur_eq
    obtain rfl : ncs = cs := Option.some.inj (hx.state_eq.symm.trans h.state_eq)
    exact .inr ⟨hbusy, hx⟩

/-- The transition callbacks that task `i` gets in the four parts of a dispatch. -/
theorem SyncParts.transitions (htime : controlTime ≠ nanoTMax)
    (hlawful : c.verbose → c.cmdTable.Lawful) (hm : c.Executable m.slate)
    (h : SyncParts c env controlTime m m₁ m₂ m₃ m' cs d₁ d₂ d₃ d₄) (i : Nat) :
    transitionsTo i (calledBack d₁) = [] ∧
      transitionsTo i (calledBack d₂) =
        (if (m₁.slate.pendingCmdIndex ≠ c.noop ∧ m₁.slate.lastPendingCmdIndex = c.noop) ∧
            i ∈ c.preTasks then (c.taskInfo m₂.slate.curState i).toList else []) ∧
      transitionsTo i (calledBack d₃) =
        (if m₁.slate.pendingCmdIndex ≠ c.noop ∧ i ∈ c.postTasks then
          (c.taskInfo m₂.slate.curState i).toList else []) ∧
      transitionsTo i (calledBack d₄) =
        (if i ∈ c.preTasks then
          ((c.outstanding m₃.slate).bind fun p => c.taskInfo p.2 i).toList else []) := by
  refine ⟨?_, ?_, ?_, ?_⟩
  · rw [h.dispatched.called, transitions_to_dispatch_calls]
  · rcases h.carried htime hlawful hm with ⟨hfree, -, rfl⟩ | ⟨hbusy, hx⟩
    · simp [hfree, calledBack]
    · rw [hx.called, transitions_to_append, transitions_to_set_state_calls i _ _ h.state_eq]
      have hsig : transitionsTo i [.stateSig m₂.slate.curState] = [] := rfl
      simp [hbusy, hsig]
  · rw [h.after.called, transitions_to_after_check_calls i _ h.state_eq]
    simp
  · cases h.pulled with
    | idle hfree => simp [outstanding, hfree, calledBack]
    | pulled hbusy hgoes hncs hahead =>
        rw [hahead.called, transitions_to_pull_in_calls i _ hncs, hgoes.outstanding_eq hbusy]
        rfl

/-- A dispatch is crowded when it has carried out a fresh command and ends with another one. -/
theorem SyncParts.crowded_iff (htime : controlTime ≠ nanoTMax)
    (hlawful : c.verbose → c.cmdTable.Lawful) (hm : c.Executable m.slate)
    (h : SyncParts c env controlTime m m₁ m₂ m₃ m' cs d₁ d₂ d₃ d₄) :
    c.Crowded env controlTime m.slate ↔
      0 < c.numPreTransitionCtasks ∧ m₁.slate.lastPendingCmdIndex = c.noop ∧
        m₁.slate.pendingCmdIndex ≠ c.noop ∧ m₃.slate.pendingCmdIndex ≠ c.noop := by
  unfold Crowded
  rw [target_at_check_eq h.dispatched, h.dispatched.last_pending_eq]
  refine and_congr_right fun _ => and_congr_right fun hlast => ?_
  rcases h.carried htime hlawful hm with ⟨hfree, -, -⟩ | ⟨hbusy, hx⟩
  · simp [outstanding, hfree]
  · have hafter := h.after.pending_eq
    simp only [hbusy, h.dispatched.last_pending_eq, hlast, ne_eq, not_true_eq_false,
      not_false_eq_true, decide_true, decide_false] at hafter
    rw [hx.goes.outstanding_eq hbusy, hafter]
    simp only [Option.map_some, Option.mem_def, Option.some.injEq, exists_eq_left', h.state_eq]
    rw [hear_busy_iff h.free]
    exact (and_iff_right hbusy).symm

/-- A dispatch gives each task at most one transition callback unless it is crowded. -/
theorem sync_parts_transitions_le_iff (hc : c.Valid) (htime : controlTime ≠ nanoTMax)
    (hlawful : c.verbose → c.cmdTable.Lawful) (hm : c.Executable m.slate)
    (h : SyncParts c env controlTime m m₁ m₂ m₃ m' cs d₁ d₂ d₃ d₄) :
    (∀ i, (transitionsTo i (calledBack (d₁ ++ d₂ ++ d₃ ++ d₄))).length ≤ 1) ↔
      ¬c.Crowded env controlTime m.slate := by
  have hparts (i : Nat) := h.transitions htime hlawful hm i
  rw [h.crowded_iff htime hlawful hm]
  constructor
  · rintro hall ⟨hpos, hlast, hbusy₁, hbusy₃⟩
    -- task 0 is a pre task, and it is called for both transitions
    have hnum : 0 < c.numTasks := hpos.trans_le hc.pre_le
    obtain ⟨hnone, hfirst, -, hsecond⟩ := hparts 0
    obtain ⟨info₁, hinfo₁⟩ := hc.task_info_some (List.getElem?_eq_some_iff.1 h.state_eq).1 hnum
    obtain ⟨x, hgoes⟩ : ∃ x, c.Goes m₃.slate.curState m₃.slate.pendingCmdIndex x := by
      cases h.pulled with
      | idle hfree => exact absurd hfree hbusy₃
      | pulled hbusy hgoes hncs hahead => exact ⟨_, hgoes⟩
    obtain ⟨info₂, hinfo₂⟩ := hc.task_info_some hgoes.lt_length hnum
    rw [if_pos ⟨⟨hbusy₁, hlast⟩, mem_pre_tasks.2 hpos⟩, hinfo₁] at hfirst
    rw [if_pos (mem_pre_tasks.2 hpos), hgoes.outstanding_eq hbusy₃, Option.bind_some, hinfo₂]
      at hsecond
    have htwo := hall 0
    simp only [called_back_append, transitions_to_append, hfirst, hsecond,
      List.length_append, Option.toList_some, List.length_singleton] at htwo
    omega
  · intro hsparse i
    obtain ⟨hnone, hfirst, hpost, hsecond⟩ := hparts i
    simp only [called_back_append, transitions_to_append, hnone, List.nil_append,
      List.length_append]
    -- a pre task is called for the next transition only if it is new
    by_cases hpre : i ∈ c.preTasks
    · have hnotpost : i ∉ c.postTasks := fun hmem =>
        absurd (mem_pre_tasks.1 hpre) (mem_post_tasks.1 hmem).1.not_gt
      rw [hpost, if_neg fun hboth => hnotpost hboth.2]
      by_cases hfresh : m₁.slate.pendingCmdIndex ≠ c.noop ∧ m₁.slate.lastPendingCmdIndex = c.noop
      · have hfree₃ : m₃.slate.pendingCmdIndex = c.noop := by
          by_contra hbusy₃
          exact hsparse
            ⟨(Nat.zero_le i).trans_lt (mem_pre_tasks.1 hpre), hfresh.2, hfresh.1, hbusy₃⟩
        have hclosed : c.outstanding m₃.slate = none := if_pos hfree₃
        rw [hsecond, hclosed, hfirst, if_pos ⟨hfresh, hpre⟩]
        simp
      · rw [hfirst, if_neg fun hboth => hfresh hboth.1, hsecond, if_pos hpre]
        simp
    · rw [hfirst, if_neg fun hboth => hpre hboth.2, hsecond, if_neg hpre, hpost]
      split_ifs
      · simp
      · simp

end Config

/-- In a run of a synchronous machine a dispatch gives every task at most one transition callback if
and only if it is not crowded. -/
theorem transition_once_iff_not_crowded {flavor : Flavor} (hflavor : flavor ≠ .async)
    {inp : Inputs} {c : Config} (hinit : init flavor inp = some c)
    (hlawful : c.verbose → c.cmdTable.Lawful) {env₀ : Environment} {m₀ : Machine}
    (hstart : c.start env₀ = some m₀) {ops : List Op} (hops : ∀ op ∈ ops, op.Regular) :
    ∀ x ∈ c.dispatches flavor ops m₀,
      (∀ i, (transitionsTo i (calledBack x.events)).length ≤ 1) ↔
        ¬c.Crowded x.env x.controlTime x.found := by
  intro x hx
  obtain ⟨before, m, m', hinitial, hrun, hstep, hfound, hevents⟩ := Config.mem_dispatches hx
  have hregular (op : Op) (hop : op ∈ before ++ [.dispatch x.controlTime x.env]) : op.Regular :=
    hops op (hinitial.subset hop)
  have hm : c.Bookkept m := by
    refine Config.run_induction (Config.start_bookkept (init_valid hinit) hlawful hstart) ?_ hrun
    intro op hop m m' hm hstep
    exact Config.step_bookkept hlawful hflavor (hregular op (List.mem_append_left _ hop)) hm hstep
  have htime : x.controlTime ≠ nanoTMax :=
    hregular (.dispatch x.controlTime x.env) (List.mem_append_right _ (List.mem_singleton.2 rfl))
  obtain ⟨m₁, m₂, m₃, cs, d₁, d₂, d₃, d₄, hparts⟩ :=
    Config.sync_step_parts hflavor hm.executable.cur_state_lt hstep
  rw [hfound, hevents, hparts.trace_eq, List.drop_left]
  exact Config.sync_parts_transitions_le_iff (init_valid hinit) htime hlawful hm.executable hparts

namespace Sample

/-- Outside code in which the post task issues `go` when it is dispatched. -/
def eager : Environment
  | .dispatch 1 controlTime => { cmds := [⟨controlTime, cmd "go"⟩], time := nanoTMin }
  | cb => quiet cb

/-- Two operations: the machine is sent to `idle` and dispatched. -/
def sendToIdle (env : Environment) : List Op := [.command ⟨5, cmd "go"⟩, .dispatch 10 env]

/-- The operations of the sample are regular. -/
theorem send_to_idle_regular (env : Environment) : ∀ op ∈ sendToIdle env, op.Regular := by
  intro op hop
  simp only [sendToIdle, List.mem_cons, List.not_mem_nil, or_false] at hop
  rcases hop with rfl | rfl
  · trivial
  · exact (by decide : (10 : Int) ≠ nanoTMax)

end Sample

/-- With a quiet environment the sample machine gets to `idle` without a crowded dispatch. -/
theorem transition_once_iff_not_crowded_sample :
    ((Sample.config .sync).dispatches .sync (Sample.sendToIdle Sample.quiet)
        (Sample.started .sync)).length = 1 ∧
      ∀ x ∈ (Sample.config .sync).dispatches .sync (Sample.sendToIdle Sample.quiet)
        (Sample.started .sync),
        (∀ i, (transitionsTo i (calledBack x.events)).length ≤ 1) ↔
          ¬(Sample.config .sync).Crowded x.env x.controlTime x.found :=
  ⟨by decide, transition_once_iff_not_crowded (by decide) (Sample.init_eq .sync)
    (fun _ => Sample.lawful .sync) (Sample.start_eq .sync)
    (Sample.send_to_idle_regular Sample.quiet)⟩

/-- The sample machine goes to `idle` at the start of a dispatch, in which its post task then issues
`go`: the pre task is transitioned to `idle` and to `active`. -/
theorem eager_post_task_transitions_pre_task_twice :
    ∃ x ∈ (Sample.config .sync).dispatches .sync (Sample.sendToIdle Sample.eager)
        (Sample.started .sync),
      (transitionsTo 0 (calledBack x.events)).length = 2 := by
  decide

end Codon.StateMachine
