import Codon.StateMachine.Consistency
import Codon.StateMachine.Timeouts

/-!
# Timeouts at one control time

`AsyncStateMachine::dispatch` asks to be called again at once when a timeout has been
accepted. While the control time stands still and nobody issues a command, each further
dispatch carries out the timeout of the state before (`QuietDispatch.moves`), and it times
out again only if the new state lasts less than one transition period. So the states
passed through are dangerous, and `validate_graph` bounds their number.
-/

namespace Codon.StateMachine

/-- Dispatches at one control time. -/
def dispatchesAt (controlTime : Int) (envs : List Environment) : List Op :=
  envs.map (.dispatch controlTime)

namespace Config

/-- The timeout command is pending, its nominal time in the period that ends at `controlTime`. -/
structure TimedOut (c : Config) (controlTime : Int) (e : SlateElements) : Prop where
  pending_eq : e.pendingCmdIndex = c.timeoutCmd.index
  leads : (c.leadsTo e.curState c.timeoutCmd).isSome
  late : controlTime - c.transitionPeriod < e.nominalTransitionTime
  early : e.nominalTransitionTime ≤ controlTime

/-- A pending command that is handled at `transitionTime` is dropped. -/
def Drops (c : Config) (e : SlateElements) : Prop :=
  e.nominalTransitionTime = nanoTMax ∨
    (c.verbose ∧ c.cmdTable.lookupIndex e.pendingCmdIndex = none) ∨
    ∀ x, ¬c.Goes e.curState e.pendingCmdIndex x

/-- What an asynchronous dispatch does when no command is issued: it waits for the time of the
pending command, or it stays in its state, or it moves to the state that the pending command leads
to. In the last two cases the state that it ends in may time out. -/
inductive QuietDispatch (c : Config) (controlTime : Int) (m m' : Machine) : Prop where
  | waits (hbusy : m.slate.pendingCmdIndex ≠ c.noop)
      (hearly : controlTime < m.slate.nominalTransitionTime)
      (hpending : m'.slate.pendingCmdIndex = m.slate.pendingCmdIndex)
      (hnominal : m'.slate.nominalTransitionTime = m.slate.nominalTransitionTime)
      (hsets : stateSets m'.trace = stateSets m.trace)
  | stays (hdropped : m.slate.pendingCmdIndex = c.noop ∨
        m.slate.nominalTransitionTime ≤ controlTime ∧ c.Drops m.slate)
      (hcur : m'.slate.curState = m.slate.curState)
      (hsets : stateSets m'.trace = stateSets m.trace)
      (hafter : m'.slate.pendingCmdIndex = c.noop ∨ c.TimedOut controlTime m'.slate)
  | moves {x : Nat} (hdue : m.slate.nominalTransitionTime ≤ controlTime)
      (hgoes : c.Goes m.slate.curState m.slate.pendingCmdIndex x)
      (hcur : m'.slate.curState = x)
      (hsets : stateSets m'.trace = stateSets m.trace ++ [(m.slate.pendingCmdIndex, x)])
      (hafter : m'.slate.pendingCmdIndex = c.noop ∨
        c.TimedOut controlTime m'.slate ∧
          (controlTime - c.transitionPeriod < m.slate.nominalTransitionTime →
            c.isDangerous true x))

variable {c : Config} {env : Environment} {m m' : Machine} {controlTime : Int}

/-- A machine that timed out has a command pending. -/
theorem TimedOut.busy {e : SlateElements} (h : c.TimedOut controlTime e) :
    e.pendingCmdIndex ≠ c.noop := by
  obtain ⟨x, hx⟩ := Option.isSome_iff_exists.1 h.leads
  rw [h.pending_eq]
  exact (leads_to_eq_some.1 hx).1.2.2

/-- In a stretch whose only command can be the timeout of its state, that is what is accepted. -/
theorem timeout_accepted {d : List Event} {cbs : List Callback} {cs : ControlState}
    (h : Stretch c m m' d cbs (c.timeoutCalls env m.slate.curState cs controlTime))
    (hfree : m.slate.pendingCmdIndex = c.noop) (hbusy : m'.slate.pendingCmdIndex ≠ c.noop) :
    c.TimedOut controlTime m'.slate ∧ cs.seqs ≠ [] ∧
      (env (.dispatchSeqs .now m.slate.curState controlTime)).time = nanoTMax := by
  obtain ⟨issue, verdict, left, hev, haccept⟩ := h.acceptance_mem hfree hbusy
  have hissue := h.issue_mem hev
  unfold timeoutCalls at hissue
  split_ifs at hissue with hended
  · obtain rfl := List.mem_singleton.1 hissue
    obtain ⟨hleads, hpending, hnominal, hlate, hearly⟩ := h.of_acceptance hev haccept
    refine ⟨⟨hpending, ?_, hnominal ▸ hlate, hnominal ▸ hearly⟩, hended⟩
    rwa [h.cur_state_eq]
  · cases hissue

/-- A state that has just been started at `nominalTransitionTime` and has timed out is dangerous
when that time lies in the period that ends now. -/
theorem started_dangerous {x : Nat} {ncs : ControlState} {past before after : List Callback}
    {transitionTime : Int} (hc : c.Valid) (hncs : c.state[x]? = some ncs) (hseqs : ncs.seqs ≠ [])
    (hleads : (c.leadsTo x c.timeoutCmd).isSome)
    (htimed : c.SeqsTimed env past (before ++ .dispatchSeqs .now x controlTime :: after))
    (hstart : lastStart x (past ++ before) = some transitionTime)
    (hended : (env (.dispatchSeqs .now x controlTime)).time = nanoTMax)
    (hlate : controlTime - c.transitionPeriod < transitionTime) : c.isDangerous true x := by
  obtain ⟨y, hy⟩ := Option.isSome_iff_exists.1 hleads
  obtain ⟨hnext, -, hlt⟩ := timeout_leads hc hy
  obtain ⟨start, hstart', cs, hcs, hduration⟩ := htimed.at.1 hended
  rw [hstart] at hstart'
  cases hstart'
  rw [hncs] at hcs
  cases hcs
  refine is_dangerous_iff.2 ⟨ncs, hncs, hseqs, .inl ?_, hnext ▸ hlt⟩
  omega

/-- What a state change to `x` with the start of its event sequences calls. -/
theorem last_start_set_state_calls {old x : Nat} {ncs : ControlState} {transitionTime : Int}
    (hseqs : ncs.seqs ≠ []) (cbs : List Callback) (pre post : Bool) :
    lastStart x (cbs ++ c.setStateCalls old x ncs transitionTime pre post true ++ [.stateSig x]) =
      some transitionTime := by
  have hsig : startsOf x [.stateSig x] = [] := rfl
  have hcut : cbs ++ c.setStateCalls old x ncs transitionTime pre post true ++ [.stateSig x] =
      (cbs ++ (if pre then transitionCalls .now transitionTime ncs c.preTasks else []) ++
        (if post then transitionCalls .now transitionTime ncs c.postTasks else []) ++
        (if x ≠ old then [.endSeqs old] else [])) ++
          .startSeqs .now x transitionTime :: [.stateSig x] := by
    simp [setStateCalls, hseqs]
  rw [hcut]
  exact last_start_start hsig .now

/-- What follows the check in an asynchronous dispatch during which no command is issued. -/
theorem AsyncParts.after_of_silent (hsilent : env.Silent) {m₁ m₂ : Machine} {cs : ControlState}
    {d₁ d₂ d₃ : List Event} (h : AsyncParts c env controlTime m m₁ m₂ m' cs d₁ d₂ d₃) :
    Stretch c m₂ m' d₃
      (sequenceCalls m₂.slate.curState cs controlTime ++ dispatchCalls env controlTime c.postTasks)
      (c.timeoutCalls env m₂.slate.curState cs controlTime) := by
  simpa [hsilent.offers] using h.after

/-- A timeout that is accepted in the dispatch that enters the state finds the state dangerous. -/
theorem entered_times_out (hc : c.Valid) (hsilent : env.Silent) {m₁ m₂ : Machine}
    {cs : ControlState} {d₁ d₂ d₃ : List Event}
    (h : AsyncParts c env controlTime m m₁ m₂ m' cs d₁ d₂ d₃) {x : Nat} {transitionTime : Int}
    (hstate : m₂.slate.curState = x) (hfree : m₂.slate.pendingCmdIndex = c.noop)
    (hbusy : m'.slate.pendingCmdIndex ≠ c.noop)
    (hcalled : calledBack d₂ =
      c.setStateCalls m.slate.curState x cs transitionTime true true true ++ [.stateSig x])
    (htimed : c.SeqsTimed env (calledBack m.trace) (calledBack (d₁ ++ d₂ ++ d₃)))
    (hlate : controlTime - c.transitionPeriod < transitionTime) : c.isDangerous true x := by
  have hafter := h.after_of_silent hsilent
  obtain ⟨hout, hseqs, hended⟩ := timeout_accepted hafter hfree hbusy
  have hleads := hout.leads
  have hcs := h.state_eq
  rw [hafter.cur_state_eq] at hleads
  rw [hstate] at hleads hended hcs
  have hcalls : calledBack (d₁ ++ d₂ ++ d₃) = (dispatchCalls env controlTime c.preTasks ++
      c.setStateCalls m.slate.curState x cs transitionTime true true true ++
      [.stateSig x]) ++ .dispatchSeqs .now x controlTime ::
        dispatchCalls env controlTime c.postTasks := by
    simp [h.dispatched.called, hcalled, hafter.called, sequenceCalls, hseqs, hstate]
  rw [hcalls] at htimed
  refine started_dangerous hc hcs hseqs hleads htimed ?_ hended hlate
  rw [← List.append_assoc, ← List.append_assoc]
  exact last_start_set_state_calls hseqs _ true true

/-- An asynchronous dispatch during which no command is issued. -/
theorem quiet_dispatch (hc : c.Valid) (hsilent : env.Silent)
    (hcur : m.slate.curState < c.state.length) {next : Int}
    (h : c.asyncDispatch env controlTime m = some (next, m'))
    (htimed : c.SeqsTimed env (calledBack m.trace)
      (calledBack (m'.trace.drop m.trace.length))) :
    c.QuietDispatch controlTime m m' := by
  obtain ⟨m₁, m₂, cs, d₁, d₂, d₃, hparts⟩ := async_parts hcur h
  rw [hparts.trace_eq, List.drop_left] at htimed
  obtain ⟨time₁, hslate₁⟩ : ∃ time, m₁.slate = m.slate.withEventTime time := by
    simpa [hsilent.offers, hear] using hparts.dispatched.slate_eq
  have hafter := hparts.after_of_silent hsilent
  have hsets : stateSets m'.trace = stateSets m.trace ++ stateSets d₂ := by
    simp [hparts.trace_eq, hparts.dispatched.state_sets, hafter.state_sets]
  -- what a silent dispatch leaves pending is the timeout of the state
  have hsettled (hfree : m₂.slate.pendingCmdIndex = c.noop) :
      m'.slate.pendingCmdIndex = c.noop ∨ c.TimedOut controlTime m'.slate := by
    by_cases hnoop : m'.slate.pendingCmdIndex = c.noop
    · exact .inl hnoop
    · exact .inr (timeout_accepted hafter hfree hnoop).1
  -- no state changes before the time of the transition
  rcases hparts.changed with ⟨hearly, rfl, rfl⟩ | ⟨hdue, hbusy, hchanges⟩
  · rw [show stateSets [] = [] from rfl, List.append_nil] at hsets
    by_cases hfree : m₂.slate.pendingCmdIndex = c.noop
    · refine .stays (.inl ?_) ?_ hsets (hsettled hfree)
      · rwa [hslate₁] at hfree
      · rw [hafter.cur_state_eq, hslate₁]
        rfl
    · obtain ⟨time, hslate⟩ := hafter.slate_eq
      rw [hear_of_busy hfree, hslate₁] at hslate
      rw [hslate₁] at hfree hearly
      refine .waits hfree hearly ?_ ?_ hsets
      · rw [hslate]
        rfl
      · rw [hslate]
        rfl
  have hfree : m₂.slate.pendingCmdIndex = c.noop := hchanges.cleared.1
  have hmoved := hchanges.moved
  rw [hslate₁] at hdue hmoved
  rcases hmoved with ⟨hbad, hstate, hnone⟩ | ⟨x, ncs, hgoes, hncs, hstate, hone, hcalled⟩
  · rw [hnone, List.append_nil] at hsets
    exact .stays (.inr ⟨hdue, hbad⟩) (hafter.cur_state_eq.trans hstate) hsets (hsettled hfree)
  · -- the sequences that are dispatched are those of the new state
    obtain rfl : ncs = cs := by
      have hcs := hparts.state_eq
      rw [hstate, hncs] at hcs
      exact Option.some.inj hcs
    rw [hone] at hsets
    refine .moves hdue hgoes (hafter.cur_state_eq.trans hstate) hsets ?_
    by_cases hnoop : m'.slate.pendingCmdIndex = c.noop
    · exact .inl hnoop
    exact .inr ⟨(timeout_accepted hafter hfree hnoop).1,
      entered_times_out hc hsilent hparts hstate hfree hnoop hcalled htimed⟩

/-! ## Runs -/

/-- A step that does not force a state stays among the states of the machine. -/
theorem async_step_cur_state_lt {op : Op} (hop : op.forces = false)
    (hcur : m.slate.curState < c.state.length) (h : c.step .async m op = some m') :
    m'.slate.curState < c.state.length := by
  cases op with
  | command call =>
      obtain ⟨⟨verdict, m₁⟩, hsubmit, rfl⟩ := Option.map_eq_some_iff.1 h
      exact (Stretch.submit hsubmit).cur_state_eq.trans_lt hcur
  | dispatch controlTime env =>
      obtain ⟨⟨next, m₁⟩, hdispatch, rfl⟩ := Option.map_eq_some_iff.1 h
      obtain ⟨m₁, m₂, cs, d₁, d₂, d₃, hparts⟩ := async_parts hcur hdispatch
      rw [hparts.after.cur_state_eq]
      exact (List.getElem?_eq_some_iff.1 hparts.state_eq).1
  | forceState controlTime stateNum curEventSeqTime env => cases hop

/-- A dispatch of silent tasks is quiet. -/
theorem quiet_step (hc : c.Valid) (hsilent : env.Silent)
    (hcur : m.slate.curState < c.state.length)
    (h : c.step .async m (.dispatch controlTime env) = some m')
    (htimed : c.StepTimed ⟨m, .dispatch controlTime env, m'⟩) :
    c.QuietDispatch controlTime m m' := by
  obtain ⟨⟨next, m₁⟩, hdispatch, rfl⟩ := Option.map_eq_some_iff.1 h
  exact quiet_dispatch hc hsilent hcur hdispatch htimed

/-- A pending timeout is not dropped. -/
theorem TimedOut.not_drops {e : SlateElements} (h : c.TimedOut controlTime e)
    (hlawful : c.verbose → c.cmdTable.Lawful) (htime : controlTime < nanoTMax) : ¬c.Drops e := by
  obtain ⟨x, hx⟩ := Option.isSome_iff_exists.1 h.leads
  rintro (hmax | ⟨hverbose, hlookup⟩ | hnowhere)
  · have hearly := h.early
    omega
  · have hfound := hlawful hverbose _ (leads_to_eq_some.1 hx).1.2.1
    rw [← h.pending_eq, hlookup] at hfound
    cases hfound
  · rw [h.pending_eq] at hnowhere
    exact hnowhere x (leads_to_goes hx)

/-- All but the last of the steps leave a command pending. -/
def StaysBusy (c : Config) (steps : List Step) : Prop :=
  ∀ s ∈ steps.dropLast, s.after.slate.pendingCmdIndex ≠ c.noop

/-- The steps of a run of dispatches begin with its first. -/
theorem steps_dispatches_at_cons {envs : List Environment} {m₁ : Machine}
    (h : c.step .async m (.dispatch controlTime env) = some m₁) :
    c.steps .async (dispatchesAt controlTime (env :: envs)) m =
      ⟨m, .dispatch controlTime env, m₁⟩ ::
        c.steps .async (dispatchesAt controlTime envs) m₁ := by
  simp only [dispatchesAt, List.map_cons, steps, h]

/-- The rest of a busy run is busy. -/
theorem StaysBusy.tail {s : Step} {steps : List Step} (h : c.StaysBusy (s :: steps)) :
    c.StaysBusy steps := by
  intro s' hs'
  cases steps with
  | nil => cases hs'
  | cons t steps => exact h s' (List.mem_cons_of_mem _ hs')

/-- A dispatch that others follow leaves a command pending. -/
theorem StaysBusy.head {envs : List Environment} {s : Step}
    (h : c.StaysBusy (s :: c.steps .async (dispatchesAt controlTime envs) m))
    (hrun : c.run .async (dispatchesAt controlTime envs) m = some m') (henvs : envs ≠ []) :
    s.after.slate.pendingCmdIndex ≠ c.noop := by
  cases envs with
  | nil => exact absurd rfl henvs
  | cons env envs =>
      obtain ⟨m₁, hfirst, -⟩ := Option.bind_eq_some_iff.1 hrun
      rw [steps_dispatches_at_cons hfirst] at h
      exact h s (by simp)

/-- From a pending timeout on, repeated dispatches follow the timeouts. -/
theorem timed_out_run (hc : c.Valid) {envs : List Environment} (hsilent : ∀ env ∈ envs, env.Silent)
    (hcur : m.slate.curState < c.state.length)
    (hm : envs ≠ [] → c.TimedOut controlTime m.slate)
    (hrun : c.run .async (dispatchesAt controlTime envs) m = some m')
    (htimed : ∀ s ∈ c.steps .async (dispatchesAt controlTime envs) m, c.StepTimed s)
    (hbusy : c.StaysBusy (c.steps .async (dispatchesAt controlTime envs) m)) :
    ∃ k ≤ envs.length, (stateSets m'.trace).length = (stateSets m.trace).length + k ∧
      c.Chases true m.slate.curState k ∧
      ((c.verbose → c.cmdTable.Lawful) → controlTime < nanoTMax → k = envs.length) := by
  induction envs generalizing m with
  | nil =>
      cases hrun
      exact ⟨0, le_rfl, rfl, .zero _, fun _ _ => rfl⟩
  | cons env envs ih =>
      have hout := hm (List.cons_ne_nil env envs)
      obtain ⟨m₁, hfirst, hrest⟩ := Option.bind_eq_some_iff.1 hrun
      rw [steps_dispatches_at_cons hfirst] at htimed hbusy
      rw [List.forall_mem_cons] at htimed hsilent
      have hstill (henvs : envs ≠ []) := hbusy.head hrest henvs
      have hchase (hm₁ : envs ≠ [] → c.TimedOut controlTime m₁.slate) :=
        ih hsilent.2 (async_step_cur_state_lt rfl hcur hfirst) hm₁ hrest htimed.2 hbusy.tail
      cases quiet_step hc hsilent.1 hcur hfirst htimed.1 with
      -- the timeout is due, so the dispatch does not wait for it
      | waits hbusy hearly hpending hnominal hsets =>
          have hdue := hout.early
          omega
      | stays hdropped hstate hsets hafter =>
          obtain ⟨k, hk, hlength, hchases, hall⟩ :=
            hchase fun henvs => hafter.resolve_left (hstill henvs)
          rw [hsets] at hlength
          refine ⟨k, hk.trans (by simp), hlength, hstate ▸ hchases, fun hlawful htime => ?_⟩
          -- a timeout that leads somewhere is not dropped
          exact absurd (hdropped.resolve_left hout.busy).2 (hout.not_drops hlawful htime)
      | @moves x hdue hgoes hstate hsets hafter =>
          have hagain (henvs : envs ≠ []) := hafter.resolve_left (hstill henvs)
          obtain ⟨k, hk, hlength, hchases, hall⟩ := hchase fun henvs => (hagain henvs).1
          obtain ⟨y, hy⟩ := Option.isSome_iff_exists.1 hout.leads
          obtain ⟨hnext, hpos, hlt⟩ := timeout_leads hc hy
          rw [hout.pending_eq] at hgoes
          obtain rfl := hgoes.unique (leads_to_goes hy)
          refine ⟨k + 1, by simpa using hk, ?_, ?_, fun hlawful htime => ?_⟩
          · rw [hlength, hsets, List.length_append, List.length_singleton]
            omega
          · rw [← hnext] at hpos hlt
            refine .succ hpos hlt (fun hk' => ?_) (by rwa [hnext, ← hstate])
            have henvs : envs ≠ [] := by
              rintro rfl
              simp at hk
              omega
            rw [hnext]
            exact (hagain henvs).2 hout.late
          · rw [hall hlawful htime, List.length_cons]

/-- A machine that waits for a later time stays as it is. -/
theorem waiting_run (hc : c.Valid) {envs : List Environment} (hsilent : ∀ env ∈ envs, env.Silent)
    (hcur : m.slate.curState < c.state.length) (hpending : m.slate.pendingCmdIndex ≠ c.noop)
    (hearly : controlTime < m.slate.nominalTransitionTime)
    (hrun : c.run .async (dispatchesAt controlTime envs) m = some m')
    (htimed : ∀ s ∈ c.steps .async (dispatchesAt controlTime envs) m, c.StepTimed s) :
    stateSets m'.trace = stateSets m.trace := by
  induction envs generalizing m with
  | nil =>
      cases hrun
      rfl
  | cons env envs ih =>
      obtain ⟨m₁, hfirst, hrest⟩ := Option.bind_eq_some_iff.1 hrun
      rw [steps_dispatches_at_cons hfirst, List.forall_mem_cons] at htimed
      rw [List.forall_mem_cons] at hsilent
      cases quiet_step hc hsilent.1 hcur hfirst htimed.1 with
      | waits _ _ hpending₁ hnominal₁ hsets =>
          rw [← hsets]
          exact ih hsilent.2 (async_step_cur_state_lt rfl hcur hfirst)
            (hpending₁.trans_ne hpending) (hnominal₁ ▸ hearly) hrest htimed.2
      | stays hdropped _ _ _ =>
          exact absurd (hdropped.resolve_left hpending).1 hearly.not_ge
      | moves hdue _ _ _ _ => exact absurd hdue hearly.not_ge

/-- From any machine, at one control time. -/
theorem dispatches_at_bound (hc : c.Valid) (hgraph : c.validateGraph true = some true)
    {envs : List Environment} (hsilent : ∀ env ∈ envs, env.Silent)
    (hcur : m.slate.curState < c.state.length)
    (hrun : c.run .async (dispatchesAt controlTime envs) m = some m')
    (htimed : ∀ s ∈ c.steps .async (dispatchesAt controlTime envs) m, c.StepTimed s)
    (hbusy : c.StaysBusy (c.steps .async (dispatchesAt controlTime envs) m)) :
    (stateSets m'.trace).length ≤ (stateSets m.trace).length + c.state.length ∧
      ((c.verbose → c.cmdTable.Lawful) → controlTime < nanoTMax →
        (m.slate.pendingCmdIndex = c.noop ∨ m.slate.nominalTransitionTime ≤ controlTime) →
        envs.length ≤ c.state.length) := by
  cases henvs : envs with
  | nil =>
      subst henvs
      cases hrun
      exact ⟨Nat.le_add_right _ _, fun _ _ _ => Nat.zero_le _⟩
  | cons env rest =>
      subst henvs
      obtain ⟨m₁, hfirst, hrest⟩ := Option.bind_eq_some_iff.1 hrun
      rw [steps_dispatches_at_cons hfirst] at htimed hbusy
      rw [List.forall_mem_cons] at htimed hsilent
      have hcur₁ := async_step_cur_state_lt rfl hcur hfirst
      have hstill (henvs : rest ≠ []) := hbusy.head hrest henvs
      have hchase (hm₁ : rest ≠ [] → c.TimedOut controlTime m₁.slate) :=
        timed_out_run hc hsilent.2 hcur₁ hm₁ hrest htimed.2 hbusy.tail
      cases quiet_step hc hsilent.1 hcur hfirst htimed.1 with
      -- nothing moves before the time of the transition
      | waits hpending hearly hpending₁ hnominal₁ hsets =>
          rw [waiting_run hc hsilent.2 hcur₁ (hpending₁.trans_ne hpending) (hnominal₁ ▸ hearly)
            hrest htimed.2, hsets]
          refine ⟨Nat.le_add_right _ _, fun _ _ hdue => ?_⟩
          exact absurd (hdue.resolve_left hpending) hearly.not_ge
      | stays hdropped hstate hsets hafter =>
          obtain ⟨k, hk, hlength, hchases, hall⟩ :=
            hchase fun henvs => hafter.resolve_left (hstill henvs)
          -- no chase through dangerous states is longer than the graph
          have hbound := chases_lt_length hgraph hc hchases
          rw [hsets] at hlength
          refine ⟨by omega, fun hlawful htime _ => ?_⟩
          rw [List.length_cons, ← hall hlawful htime]
          exact hbound
      | @moves x hdue hgoes hstate hsets hafter =>
          obtain ⟨k, hk, hlength, hchases, hall⟩ :=
            hchase fun henvs => (hafter.resolve_left (hstill henvs)).1
          have hbound := chases_lt_length hgraph hc hchases
          rw [hsets, List.length_append, List.length_singleton] at hlength
          refine ⟨by omega, fun hlawful htime _ => ?_⟩
          rw [List.length_cons, ← hall hlawful htime]
          exact hbound

/-- So does a run of such steps. -/
theorem async_run_cur_state_lt (hc : c.Valid) {env₀ : Environment} {m₀ : Machine}
    (hstart : c.start env₀ = some m₀) {ops : List Op} (hops : ∀ op ∈ ops, op.forces = false)
    (hrun : c.run .async ops m₀ = some m) : m.slate.curState < c.state.length := by
  obtain ⟨d, cs, hd⟩ := start_stretch hstart
  refine run_induction (P := fun m => m.slate.curState < c.state.length)
    (hd.cur_state_eq.trans_lt hc.state_pos) ?_ hrun
  intro op hop m m' hm hstep
  exact async_step_cur_state_lt (hops op hop) hm hstep

end Config

/-- At one control time, with no commands but timeouts, an asynchronous machine changes its state
at most once for every state before a dispatch leaves nothing pending; and unless it waits for a
later time, it is also dispatched no more often than that. -/
theorem timeouts_settle {inp : Inputs} {c : Config} (hinit : init .async inp = some c)
    {env₀ : Environment} {m₀ m m' : Machine} (hstart : c.start env₀ = some m₀) {ops : List Op}
    (hops : ∀ op ∈ ops, op.forces = false) (hrun : c.run .async ops m₀ = some m)
    {controlTime : Int} {envs : List Environment} (hsilent : ∀ env ∈ envs, env.Silent)
    (hrest : c.run .async (dispatchesAt controlTime envs) m = some m')
    (htimed : ∀ s ∈ c.steps .async (dispatchesAt controlTime envs) m, c.StepTimed s)
    (hbusy : c.StaysBusy (c.steps .async (dispatchesAt controlTime envs) m)) :
    (stateSets m'.trace).length ≤ (stateSets m.trace).length + c.state.length ∧
      ((c.verbose → c.cmdTable.Lawful) → controlTime < nanoTMax →
        (m.slate.pendingCmdIndex = c.noop ∨ m.slate.nominalTransitionTime ≤ controlTime) →
        envs.length ≤ c.state.length) := by
  have hc := init_valid hinit
  obtain ⟨-, -, -, -, hgraph⟩ := init_cases hinit
  have hcur := Config.async_run_cur_state_lt hc hstart hops hrun
  exact Config.dispatches_at_bound hc hgraph hsilent hcur hrest htimed hbusy

namespace Sample

/-- Quiet outside code in which the event sequences of `idle` have ended. -/
def idleEnds : Environment
  | .dispatchSeqs _ 1 _ => {}
  | cb => quiet cb

/-- The tasks of the sample command nothing. -/
theorem idle_ends_silent : idleEnds.Silent := by
  intro cb
  unfold idleEnds
  split <;> rfl

end Sample

/-- The sample machine goes to `idle`, times out at once, goes to `active` and stays there. -/
theorem timeouts_settle_sample :
    ∃ m ∈ (Sample.config .async).run .async [.command ⟨5, Sample.cmd "go"⟩]
        (Sample.started .async),
      ∃ m' ∈ (Sample.config .async).run .async
          (dispatchesAt 10 [Sample.idleEnds, Sample.idleEnds]) m,
        m'.slate.curState = 2 ∧ (stateSets m'.trace).length ≤
          (stateSets m.trace).length + (Sample.config .async).state.length := by
  obtain ⟨m, hrun⟩ := Option.isSome_iff_exists.1 (show ((Sample.config .async).run .async
    [.command ⟨5, Sample.cmd "go"⟩] (Sample.started .async)).isSome by decide)
  have hrest : ∀ m ∈ (Sample.config .async).run .async [.command ⟨5, Sample.cmd "go"⟩]
      (Sample.started .async), ∃ m' ∈ (Sample.config .async).run .async
        (dispatchesAt 10 [Sample.idleEnds, Sample.idleEnds]) m, m'.slate.curState = 2 := by
    decide
  have htimed : ∀ m ∈ (Sample.config .async).run .async [.command ⟨5, Sample.cmd "go"⟩]
      (Sample.started .async), ∀ s ∈ (Sample.config .async).steps .async
        (dispatchesAt 10 [Sample.idleEnds, Sample.idleEnds]) m,
        (Sample.config .async).StepTimed s := by
    decide
  have hbusy : ∀ m ∈ (Sample.config .async).run .async [.command ⟨5, Sample.cmd "go"⟩]
      (Sample.started .async), ∀ s ∈ ((Sample.config .async).steps .async
        (dispatchesAt 10 [Sample.idleEnds, Sample.idleEnds]) m).dropLast,
        s.after.slate.pendingCmdIndex ≠ (Sample.config .async).noop := by
    decide
  obtain ⟨m', hrun', hactive⟩ := hrest m hrun
  refine ⟨m, hrun, m', hrun', hactive, ?_⟩
  refine (timeouts_settle (Sample.init_eq .async) (Sample.start_eq .async) ?_ hrun ?_ hrun'
    (htimed m hrun) (hbusy m hrun)).1
  · intro op hop
    rw [List.mem_singleton.1 hop]
    rfl
  · simp [Sample.idle_ends_silent]

end Codon.StateMachine
