import Codon.StateMachine.Consistency

/-!
# Accepted transitions are carried out once

The trace of a synchronous machine, read as a ledger: accepting a transition is a
request, changing the state completes it. Every operation writes a legal piece of the
ledger (`Config.Bookkept`), so no accepted transition is lost, overwritten or carried
out twice, and a dispatch completes whatever was outstanding when it started.
-/

namespace Codon.StateMachine

open Codon.Library

/-- Whether an operation is one of a synchronous machine: a command, or a dispatch at a time other
than the "never" sentinel, which `handle_pending_cmd_aux` refuses. -/
def Op.Regular : Op → Prop
  | .command _ => True
  | .dispatch controlTime _ => controlTime ≠ nanoTMax
  | .forceState _ _ _ _ => False

namespace Config

/-- The pending command is one that `handle_pending_cmd` carries out. -/
structure Executable (c : Config) (e : SlateElements) : Prop where
  cur_state_lt : e.curState < c.state.length
  leads : e.pendingCmdIndex ≠ c.noop → ∃ x, c.Goes e.curState e.pendingCmdIndex x
  known : c.verbose → e.pendingCmdIndex ≠ c.noop →
    (c.cmdTable.lookupIndex e.pendingCmdIndex).isSome

/-- The books of a machine: the pending command can be carried out, the trace is a legal ledger that
leaves it outstanding, and its lines show the states that were set. -/
structure Bookkept (c : Config) (m : Machine) : Prop where
  executable : c.Executable m.slate
  settles : Settles none (c.ledger m.trace) (c.outstanding m.slate)
  shows : ShowsStates 0 m.trace m.slate.curState

variable {c : Config} {env : Environment} {m m' : Machine} {e : SlateElements} {controlTime : Int}

/-- The elements as they are created are executable. -/
theorem created_executable (hc : c.Valid) : c.Executable c.createdElements where
  cur_state_lt := hc.state_pos
  leads hbusy := absurd rfl hbusy
  known _ hbusy := absurd rfl hbusy

/-- Noting the time of an event keeps the elements executable. -/
theorem Executable.with_event_time (h : c.Executable e) (time : Int) :
    c.Executable (e.withEventTime time) :=
  ⟨h.cur_state_lt, h.leads, h.known⟩

/-- So does hearing the commands that are issued. -/
theorem hear_executable (hlawful : c.verbose → c.cmdTable.Lawful) {cmds : List Issue}
    (h : c.Executable e) : c.Executable (c.hear e cmds) := by
  refine hear_induction h fun e issue _ he => ?_
  unfold hearOne
  split_ifs with htakes
  · obtain ⟨x, hx⟩ := Option.isSome_iff_exists.1 htakes.2
    have hcheck := (leads_to_eq_some.1 hx).1.2.1
    exact ⟨he.cur_state_lt, fun _ => ⟨x, leads_to_goes hx⟩, fun hv _ => hlawful hv _ hcheck⟩
  · exact he

/-- A pending command that leads somewhere is outstanding. -/
theorem Goes.outstanding_eq {x : Nat} (h : c.Goes e.curState e.pendingCmdIndex x)
    (hbusy : e.pendingCmdIndex ≠ c.noop) : c.outstanding e = some (e.pendingCmdIndex, x) := by
  rw [outstanding, if_neg hbusy, h.entry_eq, Option.map_some]

end Config

namespace Stretch

variable {c : Config} {m m' : Machine} {d : List Event} {cbs : List Callback} {cmds : List Issue}

/-- A stretch of callbacks and commands keeps the elements executable. -/
theorem executable (hlawful : c.verbose → c.cmdTable.Lawful) (h : Stretch c m m' d cbs cmds)
    (hm : c.Executable m.slate) : c.Executable m'.slate := by
  obtain ⟨time, hslate⟩ := h.slate_eq
  rw [hslate]
  exact (Config.hear_executable hlawful hm).with_event_time time

/-- It also keeps the bookkeeping of the last command. -/
theorem bookkept (hlawful : c.verbose → c.cmdTable.Lawful) (h : Stretch c m m' d cbs cmds)
    (hm : c.Bookkept m) : c.Bookkept m' where
  executable := h.executable hlawful hm.executable
  settles := by
    rw [h.trace_eq, Config.ledger_append]
    exact hm.settles.append h.settles
  shows := h.trace_eq ▸ hm.shows.append h.shows_states

/-- While a command is pending a stretch writes nothing into the ledger. -/
theorem ledger_of_busy (h : Stretch c m m' d cbs cmds)
    (hbusy : m.slate.pendingCmdIndex ≠ c.noop) : c.ledger d = [] := by
  rw [h.ledger_eq, Config.accepted_of_busy hbusy]

end Stretch

namespace Config

variable {c : Config} {env : Environment} {m m' : Machine} {controlTime : Int}

/-- What handling a command that can be carried out does: it changes the state to `x`, once, and
completes the command. -/
structure Executed (c : Config) (env : Environment) (transitionTime : Int) (pre post start : Bool)
    (m m' : Machine) (d : List Event) (x : Nat) (ncs : ControlState) : Prop where
  goes : c.Goes m.slate.curState m.slate.pendingCmdIndex x
  state_eq : c.state[x]? = some ncs
  events : ∃ d₁ d₂, d = d₁ ++ [.stateSet m.slate.pendingCmdIndex x] ++ d₂ ∧
    calledBack d₁ = c.setStateCalls m.slate.curState x ncs transitionTime pre post start ∧
    calledBack d₂ = [.stateSig x] ∧ stateSets d₁ = [] ∧ stateSets d₂ = []
  ledger_eq : c.ledger d = [.done (m.slate.pendingCmdIndex, x)]
  sets : stateSets d = [(m.slate.pendingCmdIndex, x)]
  shows : ShowsStates m.slate.curState d m'.slate.curState
  cur_eq : m'.slate.curState = x
  executable : c.Executable m'.slate

/-- Executing a command calls the callbacks of the change of state and then the signal. -/
theorem Executed.called {transitionTime : Int} {pre post start : Bool} {d : List Event} {x : Nat}
    {ncs : ControlState} (h : c.Executed env transitionTime pre post start m m' d x ncs) :
    calledBack d =
      c.setStateCalls m.slate.curState x ncs transitionTime pre post start ++ [.stateSig x] := by
  obtain ⟨d₁, d₂, rfl, hcalled₁, hcalled₂, -⟩ := h.events
  rw [called_back_append, called_back_append, hcalled₁, hcalled₂]
  simp [calledBack]

/-- A change of state executes the pending command. -/
theorem Changes.executed {transitionTime : Int} {pre post start : Bool} {d : List Event}
    (h : Changes c env transitionTime pre post start m m' d)
    (hbusy : m.slate.pendingCmdIndex ≠ c.noop) (htime : transitionTime ≠ nanoTMax)
    (hm : c.Executable m.slate) :
    ∃ x ncs, c.Executed env transitionTime pre post start m m' d x ncs := by
  obtain ⟨y, hy⟩ := hm.leads hbusy
  cases h with
  | dropped hbad =>
      rcases hbad with hmax | ⟨hverbose, hlookup⟩ | hnowhere
      · exact absurd hmax htime
      · have hknown := hm.known hverbose hbusy
        rw [hlookup] at hknown
        cases hknown
      · exact absurd hy (hnowhere y)
  | @carried x ncs m₁ m₂ d₁ d₂ hgoes hncs hbefore hafter =>
      have hentered : (m₁.enter m.slate.pendingCmdIndex x).slate.pendingCmdIndex ≠ c.noop :=
        (hbefore.pending_of_busy hbusy).trans_ne hbusy
      have hcons (d : List Event) : (Event.stateSet m.slate.pendingCmdIndex x :: d) =
          [.stateSet m.slate.pendingCmdIndex x] ++ d := rfl
      refine ⟨x, ncs, hgoes, hncs, ?_, ?_, ?_, ?_, hafter.cur_state_eq, ?_⟩
      · exact ⟨d₁, d₂, by rw [hcons, List.append_assoc], hbefore.called, hafter.called,
          hbefore.state_sets, hafter.state_sets⟩
      · rw [hcons, ledger_append, ledger_append, hbefore.ledger_of_busy hbusy,
          hafter.ledger_of_busy hentered]
        rfl
      · rw [hcons, state_sets_append, state_sets_append, hbefore.state_sets, hafter.state_sets]
        rfl
      · exact hbefore.shows_states.append (.set _ hafter.shows_states)
      · refine ⟨?_, fun hnoop => absurd rfl hnoop, fun _ hnoop => absurd rfl hnoop⟩
        exact hafter.cur_state_eq.trans_lt hgoes.lt_length

/-- Saving the last pending command keeps the books. -/
theorem Bookkept.save_last (h : c.Bookkept m) : c.Bookkept (saveLastPending m) where
  executable := ⟨h.executable.cur_state_lt, h.executable.leads, h.executable.known⟩
  settles := h.settles
  shows := h.shows

/-- What a dispatch does to the books: nothing that was accepted before it is left open, and the
state changes at most once. -/
theorem sync_parts_execute (hlawful : c.verbose → c.cmdTable.Lawful)
    (htime : controlTime ≠ nanoTMax) {m₁ m₂ m₃ : Machine} {cs : ControlState}
    {d₁ d₂ d₃ d₄ : List Event} (hm : c.Bookkept m)
    (h : SyncParts c env controlTime m m₁ m₂ m₃ m' cs d₁ d₂ d₃ d₄) :
    c.Bookkept m' ∧ (stateSets (d₁ ++ d₂ ++ d₃ ++ d₄)).length ≤ 1 ∧
      requests (c.ledger m.trace) <+: completions (c.ledger m'.trace) := by
  have hm₁ := h.dispatched.bookkept hlawful hm
  obtain ⟨hm₂, hclosed, hsets⟩ : c.Bookkept m₂ ∧ c.outstanding m₂.slate = none ∧
      (stateSets d₂).length ≤ 1 := by
    refine ⟨?_, if_pos h.free, ?_⟩
    · rcases h.changed with ⟨-, rfl, -⟩ | ⟨hbusy, hchanges⟩
      · exact hm₁
      · obtain ⟨x, ncs, hx⟩ := hchanges.executed hbusy htime hm₁.executable
        refine ⟨hx.executable, ?_, h.changed_trace ▸ hm₁.shows.append hx.shows⟩
        rw [h.changed_trace, ledger_append, hx.ledger_eq, outstanding, if_pos h.free]
        have hsettles := hm₁.settles
        rw [hx.goes.outstanding_eq hbusy] at hsettles
        exact hsettles.append (.done (.nil _))
    · rcases h.changed with ⟨-, -, rfl⟩ | ⟨hbusy, hchanges⟩
      · simp [stateSets]
      · obtain ⟨x, ncs, hx⟩ := hchanges.executed hbusy htime hm₁.executable
        simp [hx.sets]
  have hm₃ := h.after.bookkept hlawful hm₂
  obtain ⟨hm', hsets₄⟩ : c.Bookkept m' ∧ stateSets d₄ = [] := by
    cases h.pulled with
    | idle hfree => exact ⟨hm₃.save_last, rfl⟩
    | pulled hbusy hgoes hncs hahead =>
        exact ⟨(hahead.bookkept hlawful hm₃).save_last, hahead.state_sets⟩
  refine ⟨hm', ?_, ?_⟩
  · simpa [h.dispatched.state_sets, h.after.state_sets, hsets₄] using hsets
  · -- at `m₂` the books balance, and the trace has only grown since `m`
    have hbalance := hm₂.settles.balance
    rw [hclosed] at hbalance
    simp only [Option.toList_none, List.nil_append, List.append_nil] at hbalance
    have hgrown : requests (c.ledger m.trace) <+: requests (c.ledger m₂.trace) := by
      rw [h.changed_trace, h.dispatched.trace_eq, ledger_append, ledger_append]
      simp only [requests, List.filterMap_append, List.append_assoc]
      exact List.prefix_append _ _
    refine (hbalance ▸ hgrown).trans ?_
    rw [h.pulled_trace, h.after.trace_eq, ledger_append, ledger_append]
    simp only [completions, List.filterMap_append, List.append_assoc]
    exact List.prefix_append _ _

/-- The books are right at the start. -/
theorem start_bookkept (hc : c.Valid) (hlawful : c.verbose → c.cmdTable.Lawful)
    (h : c.start env = some m) : c.Bookkept m := by
  obtain ⟨d, cs, hd⟩ := start_stretch h
  have hnone : c.outstanding c.createdElements = none := if_pos rfl
  refine hd.bookkept hlawful ⟨created_executable hc, ?_, .nil _⟩
  rw [hnone]
  exact .nil _

/-- A dispatch of a synchronous machine, in its parts. -/
theorem sync_step_parts {flavor : Flavor} (hflavor : flavor ≠ .async)
    (hcur : m.slate.curState < c.state.length)
    (h : c.step flavor m (.dispatch controlTime env) = some m') :
    ∃ m₁ m₂ m₃ cs d₁ d₂ d₃ d₄,
      SyncParts c env controlTime m m₁ m₂ m₃ m' cs d₁ d₂ d₃ d₄ := by
  cases flavor with
  | async => exact absurd rfl hflavor
  | sync => exact sync_parts hcur h
  | settableSync => exact sync_parts hcur h

/-- Every operation keeps them. -/
theorem step_bookkept (hlawful : c.verbose → c.cmdTable.Lawful) {flavor : Flavor}
    (hflavor : flavor ≠ .async) {op : Op} (hop : op.Regular) (hm : c.Bookkept m)
    (h : c.step flavor m op = some m') : c.Bookkept m' := by
  cases op with
  | command call =>
      obtain ⟨⟨verdict, m₁⟩, hsubmit, rfl⟩ := Option.map_eq_some_iff.1 h
      exact (Stretch.submit hsubmit).bookkept hlawful hm
  | dispatch controlTime env =>
      obtain ⟨m₁, m₂, m₃, cs, d₁, d₂, d₃, d₄, hparts⟩ :=
        sync_step_parts hflavor hm.executable.cur_state_lt h
      exact (sync_parts_execute hlawful hop hm hparts).1
  | forceState controlTime stateNum curEventSeqTime env => cases hop

end Config

/-- In every run of a synchronous machine without `force_state`, the accepted transitions and the
state changes alternate, each change carrying out the transition accepted before it and leaving the
machine in its state; a dispatch changes the state at most once and leaves nothing open that was
accepted before it. -/
theorem accepted_transitions_execute_once {flavor : Flavor} (hflavor : flavor ≠ .async)
    {inp : Inputs} {c : Config} (hinit : init flavor inp = some c)
    (hlawful : c.verbose → c.cmdTable.Lawful) {env₀ : Environment} {m₀ m : Machine}
    (hstart : c.start env₀ = some m₀) {ops : List Op} (hops : ∀ op ∈ ops, op.Regular)
    (hrun : c.run flavor ops m₀ = some m) :
    Settles none (c.ledger m.trace) (c.outstanding m.slate) ∧
      ShowsStates 0 m.trace m.slate.curState ∧
      requests (c.ledger m.trace) =
        completions (c.ledger m.trace) ++ (c.outstanding m.slate).toList ∧
      ∀ controlTime env, controlTime ≠ nanoTMax →
        ((c.PeriodicSpec ∧ env₀.Timed c ∧ (∀ op ∈ ops, op.Timed c) ∧ c.ClockTime controlTime ∧
          env.Timed c) → ∃ m', c.step flavor m (.dispatch controlTime env) = some m') ∧
        ∀ m', c.step flavor m (.dispatch controlTime env) = some m' →
          ∃ d, m'.trace = m.trace ++ d ∧ (stateSets d).length ≤ 1 ∧
            requests (c.ledger m.trace) <+: completions (c.ledger m'.trace) := by
  have hc := init_valid hinit
  have hm : c.Bookkept m := by
    refine Config.run_induction (Config.start_bookkept hc hlawful hstart) ?_ hrun
    intro op hop m m' hm hstep
    exact Config.step_bookkept hlawful hflavor (hops op hop) hm hstep
  have hbalance : requests (c.ledger m.trace) =
      completions (c.ledger m.trace) ++ (c.outstanding m.slate).toList := by
    simpa using hm.settles.balance
  refine ⟨hm.settles, hm.shows, hbalance, fun controlTime env htime => ⟨?_, ?_⟩⟩
  · rintro ⟨hspec, henv₀, htimed, ht, henv⟩
    have hsteady := Config.start_steady hc hspec henv₀ flavor hstart
    have hforces : ∀ op ∈ ops, op.Timed c ∧ op.forces = false := by
      intro op hop
      refine ⟨htimed op hop, ?_⟩
      have hregular := hops op hop
      cases op with
      | command call => rfl
      | dispatch controlTime env => rfl
      | forceState controlTime stateNum curEventSeqTime env => cases hregular
    obtain ⟨m₁, hrun₁, hm₁⟩ := Config.run_steady hspec hforces hsteady
    obtain rfl : m₁ = m := Option.some.inj (hrun₁.symm.trans hrun)
    have hop : (Op.dispatch controlTime env).Timed c := ⟨ht, henv⟩
    obtain ⟨m', hstep, -⟩ := Config.step_steady hspec hop rfl hm₁
    exact ⟨m', hstep⟩
  · intro m' hstep
    obtain ⟨m₁, m₂, m₃, cs, d₁, d₂, d₃, d₄, hparts⟩ :=
      Config.sync_step_parts hflavor hm.executable.cur_state_lt hstep
    obtain ⟨-, hsets, hinitial⟩ := Config.sync_parts_execute hlawful htime hm hparts
    exact ⟨_, hparts.trace_eq, hsets, hinitial⟩

/-- The sample machine is sent to `idle`: the command is accepted outside a dispatch and carried out
by the next one. -/
theorem accepted_transitions_execute_once_sample :
    ∃ m ∈ (Sample.config .sync).run .sync
        [.command ⟨5, Sample.cmd "go"⟩, .dispatch 10 Sample.quiet] (Sample.started .sync),
      requests ((Sample.config .sync).ledger m.trace) =
        completions ((Sample.config .sync).ledger m.trace) ++
          ((Sample.config .sync).outstanding m.slate).toList ∧
      stateSets m.trace = [(3, 1)] := by
  obtain ⟨m, hrun⟩ := Option.isSome_iff_exists.1 (show ((Sample.config .sync).run .sync
    [.command ⟨5, Sample.cmd "go"⟩, .dispatch 10 Sample.quiet] (Sample.started .sync)).isSome by
      decide)
  have hsets : ∀ m ∈ (Sample.config .sync).run .sync
      [.command ⟨5, Sample.cmd "go"⟩, .dispatch 10 Sample.quiet] (Sample.started .sync),
      stateSets m.trace = [(3, 1)] := by decide
  refine ⟨m, hrun, ?_, hsets m hrun⟩
  refine (accepted_transitions_execute_once (by decide) (Sample.init_eq .sync)
    (fun _ => Sample.lawful .sync) (Sample.start_eq .sync) ?_ hrun).2.2.1
  intro op hop
  simp only [List.mem_cons, List.not_mem_nil, or_false] at hop
  rcases hop with rfl | rfl
  · trivial
  · exact (by decide : (10 : Int) ≠ nanoTMax)

end Codon.StateMachine
