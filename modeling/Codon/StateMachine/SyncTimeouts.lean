import Codon.StateMachine.Execution
import Codon.StateMachine.Timeouts

/-!
# Timeouts one period after the other

A synchronous dispatch that ends with a pending timeout has already started the next
state (`Config.PulledIn`). One period later that state is current, and if it times out
too, it lasts no longer than a period. `validate_graph` does not allow single-cycle
states to form a cycle here, so it bounds the number of such dispatches in a row. A
dispatch that accepts no command leaves the pending slot free for a command from outside.
-/

namespace Codon.StateMachine

/-- The line of an accepted state timeout. -/
def Config.timeoutAccepted (c : Config) (ev : Event) : Bool :=
  match ev with
  | .command ⟨.timeout, _⟩ _ _ => (c.acceptance ev).isSome
  | _ => false

/-- A dispatch that ends with a pending command caused by a state timeout: it has accepted one,
and what a dispatch accepts is still pending at its end. -/
def Dispatched.TimesOut (c : Config) (x : Dispatched) : Prop :=
  ∃ ev ∈ x.events, c.timeoutAccepted ev

/-- A dispatch that accepts nothing but state timeouts. -/
def Dispatched.OnlyTimeouts (c : Config) (x : Dispatched) : Prop :=
  ∀ ev ∈ x.events, (c.acceptance ev).isSome → c.timeoutAccepted ev

instance (c : Config) (x : Dispatched) : Decidable (x.TimesOut c) :=
  inferInstanceAs (Decidable (∃ ev ∈ x.events, _))

namespace Config

/-- The pending timeout leads to a state that was started at `controlTime` already. -/
structure PulledIn (c : Config) (controlTime : Int) (m : Machine) : Prop where
  pending_eq : m.slate.pendingCmdIndex = c.timeoutCmd.index
  last_eq : m.slate.lastPendingCmdIndex = c.timeoutCmd.index
  started : ∃ x, c.leadsTo m.slate.curState c.timeoutCmd = some x ∧
    lastStart x (calledBack m.trace) = some controlTime

variable {c : Config} {env : Environment} {m m' : Machine} {controlTime : Int}

/-- A state that is pulled in has a timeout command. -/
theorem PulledIn.timeout_ne (h : c.PulledIn controlTime m) : c.timeoutCmd.index ≠ c.noop := by
  obtain ⟨x, hx, -⟩ := h.started
  exact (leads_to_eq_some.1 hx).1.2.2

/-- No command that a task offers is a timeout. -/
theorem offers_origin {cbs : List Callback} {issue : Issue} (h : issue ∈ env.offers cbs) :
    issue.origin ≠ .timeout := by
  simp only [Environment.offers, List.mem_flatMap, List.mem_map] at h
  obtain ⟨cb, -, call, -, rfl⟩ := h
  intro horigin
  cases horigin

/-- Commands that are issued while the pending command is handled come from callbacks. -/
theorem Changes.origin {transitionTime : Int} {pre post start : Bool} {d : List Event}
    (h : Changes c env transitionTime pre post start m m' d) {issue : Issue} {verdict : Verdict}
    {left : SlateElements} (hev : .command issue verdict left ∈ d) : issue.origin ≠ .timeout := by
  cases h with
  | dropped hbad => cases hev
  | carried hgoes hncs hbefore hafter =>
      simp only [List.mem_append, List.mem_cons, reduceCtorEq, false_or] at hev
      rcases hev with hev | hev
      · exact offers_origin (hbefore.issue_mem hev)
      · exact offers_origin (hafter.issue_mem hev)

/-- An accepted state timeout is the one of the state that the dispatch ends in. -/
theorem sync_parts_time_out {m₁ m₂ m₃ : Machine} {cs : ControlState} {d₁ d₂ d₃ d₄ : List Event}
    (h : SyncParts c env controlTime m m₁ m₂ m₃ m' cs d₁ d₂ d₃ d₄) {ev : Event}
    (hev : ev ∈ d₁ ++ d₂ ++ d₃ ++ d₄) (haccept : c.timeoutAccepted ev) :
    (c.leadsTo m₂.slate.curState c.timeoutCmd).isSome ∧
      m₃.slate.pendingCmdIndex = c.timeoutCmd.index ∧ cs.seqs ≠ [] ∧
      (env (.dispatchSeqs .now m₂.slate.curState controlTime)).time = nanoTMax := by
  obtain ⟨issue, verdict, left, rfl, horigin⟩ : ∃ issue verdict left,
      ev = .command issue verdict left ∧ issue.origin = .timeout := by
    unfold timeoutAccepted at haccept
    split at haccept
    · exact ⟨_, _, _, rfl, rfl⟩
    · cases haccept
  have haccepted : (c.acceptance (.command issue verdict left)).isSome := by
    obtain ⟨origin, call⟩ := issue
    cases horigin
    exact haccept
  -- commands of tasks are no timeouts, so it is the one after the transition
  have hmem : .command issue verdict left ∈ d₃ := by
    simp only [List.mem_append] at hev
    rcases hev with ((hev | hev) | hev) | hev
    · exact absurd horigin (offers_origin (h.dispatched.issue_mem hev))
    · rcases h.changed with ⟨-, -, rfl⟩ | ⟨-, hchanges⟩
      · cases hev
      · exact absurd horigin (hchanges.origin hev)
    · exact hev
    · cases h.pulled with
      | idle hfree => cases hev
      | pulled hbusy hgoes hncs hahead =>
          exact absurd horigin (offers_origin (hahead.issue_mem hev))
  have hissue := h.after.issue_mem hmem
  simp only [afterCheckCmds, List.mem_append] at hissue
  have htimeout : issue ∈ c.timeoutCalls env m₂.slate.curState cs controlTime := by
    rcases hissue with (((hissue | hissue) | hissue) | hissue) | hissue
    · exact absurd horigin (offers_origin hissue)
    · exact absurd horigin (offers_origin hissue)
    · exact hissue
    · exact absurd horigin (offers_origin hissue)
    · exact absurd horigin (offers_origin hissue)
  unfold timeoutCalls at htimeout
  split_ifs at htimeout with hended
  · obtain rfl := List.mem_singleton.1 htimeout
    obtain ⟨hleads, hpending, -⟩ := h.after.of_acceptance hmem haccepted
    exact ⟨hleads, hpending, hended⟩
  · cases htimeout

/-- A dispatch that accepts a state timeout pulls in the next state. -/
theorem sync_parts_pull_in {m₁ m₂ m₃ : Machine} {cs : ControlState} {d₁ d₂ d₃ d₄ : List Event}
    (h : SyncParts c env controlTime m m₁ m₂ m₃ m' cs d₁ d₂ d₃ d₄) {ev : Event}
    (hev : ev ∈ d₁ ++ d₂ ++ d₃ ++ d₄) (haccept : c.timeoutAccepted ev) :
    c.PulledIn controlTime m' ∧ m'.slate.curState = m₂.slate.curState := by
  obtain ⟨hleads, hpending, -, -⟩ := sync_parts_time_out h hev haccept
  obtain ⟨y, hy⟩ := Option.isSome_iff_exists.1 hleads
  have hnoop : c.timeoutCmd.index ≠ c.noop := (leads_to_eq_some.1 hy).1.2.2
  cases h.pulled with
  | idle hfree => exact absurd (hpending.symm.trans hfree) hnoop
  | @pulled x ncs m₄ _ hbusy hgoes hncs hahead =>
      rw [hpending, h.after.cur_state_eq] at hgoes
      obtain rfl := hgoes.unique (leads_to_goes hy)
      have hpending₄ : m₄.slate.pendingCmdIndex = c.timeoutCmd.index :=
        (hahead.pending_of_busy hbusy).trans hpending
      have hcur₄ : m₄.slate.curState = m₂.slate.curState :=
        hahead.cur_state_eq.trans h.after.cur_state_eq
      refine ⟨⟨hpending₄, hpending₄, x, ?_, ?_⟩, hcur₄⟩
      · rw [show (saveLastPending m₄).slate.curState = m₂.slate.curState from hcur₄, hy]
      · rw [h.pulled_trace, called_back_append, hahead.called, pullInCalls, ← List.append_assoc]
        refine last_start_start ?_ .ahead
        split_ifs <;> rfl

/-- The state that was pulled in is entered at the next dispatch, which does not announce it
again. -/
theorem pulled_in_enters (hlawful : c.verbose → c.cmdTable.Lawful) {before : Int}
    (hm : c.PulledIn before m) (htime : controlTime ≠ nanoTMax) {m₁ m₂ m₃ : Machine}
    {cs : ControlState} {d₁ d₂ d₃ d₄ : List Event}
    (h : SyncParts c env controlTime m m₁ m₂ m₃ m' cs d₁ d₂ d₃ d₄) {x : Nat}
    (hx : c.leadsTo m.slate.curState c.timeoutCmd = some x) :
    m₂.slate.curState = x ∧
      calledBack d₂ = (if x ≠ m₁.slate.curState then [.endSeqs m₁.slate.curState] else []) ++
        [.stateSig x] := by
  have hnoop := hm.timeout_ne
  have hpending₁ : m₁.slate.pendingCmdIndex = c.timeoutCmd.index :=
    (h.dispatched.pending_of_busy (hm.pending_eq.trans_ne hnoop)).trans hm.pending_eq
  have hlast₁ : m₁.slate.lastPendingCmdIndex = c.timeoutCmd.index :=
    h.dispatched.last_pending_eq.trans hm.last_eq
  have hgoes₁ : c.Goes m₁.slate.curState m₁.slate.pendingCmdIndex x := by
    rw [h.dispatched.cur_state_eq, hpending₁]
    exact leads_to_goes hx
  have hchanges := (h.changed.resolve_left fun hfree => hnoop (hpending₁.symm.trans hfree.1)).2
  rcases hchanges.moved with ⟨hbad, -⟩ | ⟨y, ncs, hgoes, -, hstate, -, hcalled⟩
  · rcases hbad with hmax | ⟨hverbose, hlookup⟩ | hnowhere
    · exact absurd hmax htime
    · have hfound := hlawful hverbose _ (leads_to_eq_some.1 hx).1.2.1
      rw [← hpending₁, hlookup] at hfound
      cases hfound
    · exact absurd hgoes₁ (hnowhere x)
  · obtain rfl := hgoes.unique hgoes₁
    refine ⟨hstate, ?_⟩
    simpa [setStateCalls, hlast₁, hnoop] using hcalled

/-- A state that is pulled in and times out at the next dispatch lasts no longer than a period. -/
theorem pulled_in_dangerous (hc : c.Valid) (hlawful : c.verbose → c.cmdTable.Lawful)
    {before : Int} (hm : c.PulledIn before m) (htime : controlTime ≠ nanoTMax)
    (hnext : controlTime = before + c.transitionPeriod) {m₁ m₂ m₃ : Machine} {cs : ControlState}
    {d₁ d₂ d₃ d₄ : List Event} (h : SyncParts c env controlTime m m₁ m₂ m₃ m' cs d₁ d₂ d₃ d₄)
    (htimed : c.SeqsTimed env (calledBack m.trace) (calledBack (d₁ ++ d₂ ++ d₃ ++ d₄)))
    {ev : Event} (hev : ev ∈ d₁ ++ d₂ ++ d₃ ++ d₄) (haccept : c.timeoutAccepted ev) :
    m₂.slate.curState = c.timeoutNext m.slate.curState ∧
      c.isDangerous false (c.timeoutNext m.slate.curState) := by
  obtain ⟨x, hx, hstart⟩ := hm.started
  have hnoop := hm.timeout_ne
  have hpending₁ : m₁.slate.pendingCmdIndex = c.timeoutCmd.index :=
    (h.dispatched.pending_of_busy (hm.pending_eq.trans_ne hnoop)).trans hm.pending_eq
  have hlast₁ : m₁.slate.lastPendingCmdIndex = c.timeoutCmd.index :=
    h.dispatched.last_pending_eq.trans hm.last_eq
  obtain ⟨hstate, hcalled⟩ := pulled_in_enters hlawful hm htime h hx
  obtain ⟨hleads, -, hseqs, hended⟩ := sync_parts_time_out h hev haccept
  have hcs := h.state_eq
  rw [hstate] at hleads hended hcs
  obtain ⟨y, hy⟩ := Option.isSome_iff_exists.1 hleads
  have hcalls : calledBack (d₁ ++ d₂ ++ d₃ ++ d₄) =
      (dispatchCalls env controlTime c.preTasks ++ calledBack d₂ ++
        transitionCalls .now controlTime cs c.postTasks) ++ .dispatchSeqs .now x controlTime ::
          (dispatchCalls env controlTime c.postTasks ++ calledBack d₄) := by
    simp [h.dispatched.called, h.after.called, afterCheckCalls, sequenceCalls, hseqs, hpending₁,
      hlast₁, hnoop, hstate]
  rw [hcalls] at htimed
  obtain ⟨start, hstart', cs', hcs', hduration⟩ := htimed.at.1 hended
  -- nothing has started the sequences of the state since it was pulled in
  have hnone : startsOf x (dispatchCalls env controlTime c.preTasks ++ calledBack d₂ ++
      transitionCalls .now controlTime cs c.postTasks) = [] := by
    rw [starts_of_append, starts_of_append, starts_of_dispatch_calls, starts_of_transition_calls,
      hcalled]
    split_ifs <;> rfl
  rw [last_start_append hnone, hstart] at hstart'
  cases hstart'
  rw [hcs] at hcs'
  cases hcs'
  rw [(timeout_leads hc hx).1]
  refine ⟨hstate, is_dangerous_iff.2 ⟨cs, hcs, hseqs, ?_, ?_⟩⟩
  · rcases lt_or_eq_of_le (show cs.duration ≤ c.transitionPeriod by omega) with hlt | heq
    · exact .inl hlt
    · exact .inr ⟨rfl, heq⟩
  · obtain ⟨hnext', -, hlt⟩ := timeout_leads hc hy
    rwa [hnext']

/-! ## Runs -/

/-- The dispatches of a stretch are one transition period apart. -/
def EveryPeriod (c : Config) (stretch : List Dispatched) : Prop :=
  stretch.IsChain fun x y => y.controlTime = x.controlTime + c.transitionPeriod

/-- The rest of a periodic stretch is periodic. -/
theorem EveryPeriod.cons {x : Dispatched} {stretch : List Dispatched}
    (h : c.EveryPeriod (x :: stretch)) :
    (∀ y ∈ stretch.head?, y.controlTime = x.controlTime + c.transitionPeriod) ∧
      c.EveryPeriod stretch := by
  cases stretch with
  | nil => exact ⟨nofun, .nil⟩
  | cons y stretch =>
      obtain ⟨hfirst, hrest⟩ := List.isChain_cons_cons.1 h
      refine ⟨fun z hz => ?_, hrest⟩
      cases hz
      exact hfirst

/-- A command submitted during a dispatch leaves the state pulled in. -/
theorem PulledIn.submit {issue : Issue} {verdict : Verdict} (hm : c.PulledIn controlTime m)
    (h : c.submit issue m = some (verdict, m')) : c.PulledIn controlTime m' := by
  have hd := Stretch.submit h
  obtain ⟨x, hx, hstart⟩ := hm.started
  refine ⟨?_, hd.last_pending_eq.trans hm.last_eq, x, ?_, ?_⟩
  · rw [hd.pending_of_busy (hm.pending_eq.trans_ne hm.timeout_ne), hm.pending_eq]
  · rw [hd.cur_state_eq, hx]
  · rwa [hd.trace_eq, called_back_append, hd.called, List.append_nil]

/-- What the results about runs assume of a run: the books of its start, regular operations, and
timed event sequences. -/
structure TimedRun (c : Config) (flavor : Flavor) (ops : List Op) (m : Machine) : Prop where
  bookkept : c.Bookkept m
  regular : ∀ op ∈ ops, op.Regular
  timed : ∀ s ∈ c.steps flavor ops m, c.StepTimed s

/-- The rest of a timed run is timed. -/
theorem TimedRun.tail {flavor : Flavor} (hflavor : flavor ≠ .async)
    (hlawful : c.verbose → c.cmdTable.Lawful) {op : Op} {ops : List Op}
    (h : c.TimedRun flavor (op :: ops) m) (hstep : c.step flavor m op = some m') :
    op.Regular ∧ c.StepTimed ⟨m, op, m'⟩ ∧ c.TimedRun flavor ops m' := by
  have hregular := List.forall_mem_cons.1 h.regular
  have htimed := h.timed
  simp only [steps, hstep, List.forall_mem_cons] at htimed
  exact ⟨hregular.1, htimed.1, step_bookkept hlawful hflavor hregular.1 h.bookkept hstep,
    hregular.2, htimed.2⟩

/-- A dispatch heads the dispatches of a run. -/
theorem dispatches_cons_dispatch {flavor : Flavor} {ops : List Op}
    (h : c.step flavor m (.dispatch controlTime env) = some m') :
    c.dispatches flavor (.dispatch controlTime env :: ops) m =
      ⟨m.slate, controlTime, env, m'.trace.drop m.trace.length⟩ :: c.dispatches flavor ops m' := by
  simp [dispatches, steps, h, Step.dispatched?]

/-- A command is none of them. -/
theorem dispatches_cons_command {flavor : Flavor} {call : CmdCall} {ops : List Op}
    (h : c.step flavor m (.command call) = some m') :
    c.dispatches flavor (.command call :: ops) m = c.dispatches flavor ops m' := by
  simp only [dispatches, steps, h]
  rfl

/-- A run that is aborted has no more of them. -/
theorem dispatches_of_none {flavor : Flavor} {op : Op} {ops : List Op}
    (h : c.step flavor m op = none) : c.dispatches flavor (op :: ops) m = [] := by
  simp [dispatches, steps, h]

/-- A dangerous state that is pulled in moves one step along its chase. -/
theorem PulledIn.chases (hc : c.Valid) (hm : c.PulledIn controlTime m) {k : Nat}
    (hdangerous : 0 < k → c.isDangerous false (c.timeoutNext m.slate.curState))
    (hrest : c.Chases false (c.timeoutNext m.slate.curState) k) :
    c.Chases false m.slate.curState (k + 1) := by
  obtain ⟨x, hx, -⟩ := hm.started
  obtain ⟨hnext, hpos, hlt⟩ := timeout_leads hc hx
  rw [← hnext] at hpos hlt
  exact .succ hpos hlt hdangerous hrest

/-- Dispatches that follow a pulled in state at every period and time out chase its timeouts. -/
theorem times_out_chases (hc : c.Valid) (hlawful : c.verbose → c.cmdTable.Lawful)
    {flavor : Flavor} (hflavor : flavor ≠ .async) {ops : List Op}
    (hrun : c.TimedRun flavor ops m) (hm : c.PulledIn controlTime m) {stretch : List Dispatched}
    (hstretch : stretch <+: c.dispatches flavor ops m) (hevery : c.EveryPeriod stretch)
    (hfirst : ∀ x ∈ stretch.head?, x.controlTime = controlTime + c.transitionPeriod)
    (hout : ∀ x ∈ stretch, x.TimesOut c) :
    c.Chases false m.slate.curState (stretch.length + 1) := by
  have hend {m : Machine} {controlTime : Int} (hm : c.PulledIn controlTime m) :
      c.Chases false m.slate.curState 1 :=
    hm.chases hc (fun hk => absurd hk (lt_irrefl 0)) (.zero _)
  -- a command moves no state, and each dispatch of the stretch moves one step along
  induction ops generalizing m controlTime stretch with
  | nil =>
      obtain rfl := List.prefix_nil.1 hstretch
      exact hend hm
  | cons op ops ih =>
      cases hstep : c.step flavor m op with
      | none =>
          rw [dispatches_of_none hstep] at hstretch
          obtain rfl := List.prefix_nil.1 hstretch
          exact hend hm
      | some m' =>
      obtain ⟨hregular, htimed, hrun'⟩ := hrun.tail hflavor hlawful hstep
      cases op with
      | command call =>
          rw [dispatches_cons_command hstep] at hstretch
          obtain ⟨⟨verdict, m₁⟩, hsubmit, rfl⟩ := Option.map_eq_some_iff.1 hstep
          rw [← (Stretch.submit hsubmit).cur_state_eq]
          exact ih hrun' (hm.submit hsubmit) hstretch hevery hfirst hout
      | dispatch now env =>
          rw [dispatches_cons_dispatch hstep] at hstretch
          cases stretch with
          | nil => exact hend hm
          | cons x stretch =>
              obtain ⟨rfl, hinitial⟩ := List.cons_prefix_cons.1 hstretch
              obtain ⟨hfirstOut, hout⟩ := List.forall_mem_cons.1 hout
              obtain ⟨ev, hev, haccept⟩ := hfirstOut
              obtain ⟨m₁, m₂, m₃, cs, d₁, d₂, d₃, d₄, hparts⟩ :=
                sync_step_parts hflavor hrun.bookkept.executable.cur_state_lt hstep
              have hnext : now = controlTime + c.transitionPeriod := hfirst _ rfl
              have hevents : m'.trace.drop m.trace.length = d₁ ++ d₂ ++ d₃ ++ d₄ := by
                rw [hparts.trace_eq, List.drop_left]
              simp only [StepTimed, hevents] at htimed
              rw [hevents] at hev
              -- it times out in the state that has just been pulled in, so that is dangerous
              obtain ⟨hstate, hdangerous⟩ :=
                pulled_in_dangerous hc hlawful hm hregular hnext hparts htimed hev haccept
              obtain ⟨hpulled, hcur⟩ := sync_parts_pull_in hparts hev haccept
              refine hm.chases hc (fun _ => hdangerous) ?_
              rw [← hstate, ← hcur]
              exact ih hrun' hpulled hinitial hevery.cons.2 hevery.cons.1 hout
      | forceState now stateNum curEventSeqTime env => cases hregular

/-- Dispatches that time out at every period are fewer than the states. -/
theorem times_out_lt_length (hc : c.Valid) (hgraph : c.validateGraph false = some true)
    (hlawful : c.verbose → c.cmdTable.Lawful) {flavor : Flavor} (hflavor : flavor ≠ .async)
    {ops : List Op} (hrun : c.TimedRun flavor ops m) {stretch : List Dispatched}
    (hstretch : stretch <:+: c.dispatches flavor ops m) (hevery : c.EveryPeriod stretch)
    (hout : ∀ x ∈ stretch, x.TimesOut c) : stretch.length < c.state.length := by
  induction ops generalizing m with
  | nil =>
      obtain rfl := List.infix_nil.1 hstretch
      exact hc.state_pos
  | cons op ops ih =>
      cases hstep : c.step flavor m op with
      | none =>
          rw [dispatches_of_none hstep] at hstretch
          obtain rfl := List.infix_nil.1 hstretch
          exact hc.state_pos
      | some m' =>
      obtain ⟨hregular, -, hrun'⟩ := hrun.tail hflavor hlawful hstep
      cases op with
      | command call =>
          rw [dispatches_cons_command hstep] at hstretch
          exact ih hrun' hstretch
      | dispatch now env =>
          rw [dispatches_cons_dispatch hstep] at hstretch
          -- the stretch begins with this dispatch or lies in the rest of the run
          rcases List.infix_cons_iff.1 hstretch with hstart | hinfix
          · cases stretch with
            | nil => exact hc.state_pos
            | cons x stretch =>
                obtain ⟨rfl, hinitial⟩ := List.cons_prefix_cons.1 hstart
                obtain ⟨⟨ev, hev, haccept⟩, hout⟩ := List.forall_mem_cons.1 hout
                obtain ⟨m₁, m₂, m₃, cs, d₁, d₂, d₃, d₄, hparts⟩ :=
                  sync_step_parts hflavor hrun.bookkept.executable.cur_state_lt hstep
                have hevents : m'.trace.drop m.trace.length = d₁ ++ d₂ ++ d₃ ++ d₄ := by
                  rw [hparts.trace_eq, List.drop_left]
                rw [hevents] at hev
                obtain ⟨hpulled, -⟩ := sync_parts_pull_in hparts hev haccept
                have hchases := times_out_chases hc hlawful hflavor hrun' hpulled hinitial
                  hevery.cons.2 hevery.cons.1 hout
                exact chases_lt_length hgraph hc hchases
          · exact ih hrun' hinfix
      | forceState now stateNum curEventSeqTime env => cases hregular

/-- The graph of a synchronous machine is accepted. -/
theorem sync_validate_graph {flavor : Flavor} (hflavor : flavor ≠ .async) {inp : Inputs}
    (h : init flavor inp = some c) : c.validateGraph false = some true := by
  obtain ⟨-, -, -, -, hfinal⟩ := init_cases h
  have hsync : syncInitFinalize c = some true := by
    cases flavor with
    | async => exact absurd rfl hflavor
    | sync => exact hfinal
    | settableSync => exact hfinal
  simp only [syncInitFinalize, bind, Option.bind_eq_some_iff] at hsync
  obtain ⟨good, hgood, hrest⟩ := hsync
  cases good with
  | false => cases hrest
  | true => exact hgood

/-! ## Commands from outside -/

/-- A command that is a transition in every state. -/
def AllowedEverywhere (c : Config) (cmd : VehicleCmd) : Prop :=
  ∀ s < c.state.length, (c.leadsTo s cmd).isSome

/-- The command that is pending after a dispatch was accepted by it. -/
theorem sync_parts_accepts {m₁ m₂ m₃ : Machine} {cs : ControlState} {d₁ d₂ d₃ d₄ : List Event}
    (h : SyncParts c env controlTime m m₁ m₂ m₃ m' cs d₁ d₂ d₃ d₄)
    (hbusy : m'.slate.pendingCmdIndex ≠ c.noop) :
    ∃ ev ∈ d₁ ++ d₂ ++ d₃ ++ d₄, (c.acceptance ev).isSome := by
  have hbusy₃ : m₃.slate.pendingCmdIndex ≠ c.noop := by
    cases h.pulled with
    | idle hfree => exact absurd hfree hbusy
    | pulled hbusy₃ hgoes hncs hahead => exact hbusy₃
  obtain ⟨issue, verdict, left, hev, haccept⟩ := h.after.acceptance_mem h.free hbusy₃
  exact ⟨_, by simp [hev], haccept⟩

/-- With nothing pending a command that is allowed everywhere is accepted. -/
theorem free_accepts {flavor : Flavor} {call : CmdCall} (hfree : m.slate.pendingCmdIndex = c.noop)
    (hcur : m.slate.curState < c.state.length) (hcmd : c.AllowedEverywhere call.cmd)
    (h : c.step flavor m (.command call) = some m') :
    ∃ verdict, m'.trace = m.trace ++ [.command ⟨.outside, call⟩ verdict m'.slate] ∧
      verdict.response = .accept ∧ m'.slate.pendingCmdIndex = call.cmd.index := by
  obtain ⟨⟨verdict, m₁⟩, hsubmit, rfl⟩ := Option.map_eq_some_iff.1 h
  simp only [submit, bind, pure, Option.bind_eq_some_iff] at hsubmit
  obtain ⟨⟨verdict', left⟩, hleft, hsubmit⟩ := hsubmit
  cases hsubmit
  rcases handle_cmd_cases hleft with ⟨-, -, -, -, haccept, rfl⟩ | ⟨hnone, -⟩
  · exact ⟨verdict', rfl, haccept, rfl⟩
  · have hleads := hcmd _ hcur
    rw [hnone hfree] at hleads
    cases hleads

end Config

/-- Whatever is done to a synchronous machine, as long as it is dispatched once per transition
period, the dispatches in a row that end with a pending timeout are fewer than the states. So when
nothing but timeouts is accepted in as many dispatches as there are states, one of these dispatches
leaves nothing pending, and a command from outside that is allowed everywhere is then accepted. -/
theorem timeouts_let_commands_in {flavor : Flavor} (hflavor : flavor ≠ .async) {inp : Inputs}
    {c : Config} (hinit : init flavor inp = some c) (hlawful : c.verbose → c.cmdTable.Lawful)
    {env₀ : Environment} {m₀ : Machine} (hstart : c.start env₀ = some m₀) {ops : List Op}
    (hops : ∀ op ∈ ops, op.Regular) (htimed : ∀ s ∈ c.steps flavor ops m₀, c.StepTimed s)
    {stretch : List Dispatched} (hstretch : stretch <:+: c.dispatches flavor ops m₀)
    (hevery : c.EveryPeriod stretch) :
    ((∀ x ∈ stretch, x.TimesOut c) → stretch.length < c.state.length) ∧
      ((∀ x ∈ stretch, x.OnlyTimeouts c) → c.state.length ≤ stretch.length →
        ∃ s ∈ c.steps flavor ops m₀, (∃ x ∈ s.dispatched?, x ∈ stretch) ∧
          s.after.slate.pendingCmdIndex = c.noop ∧
          ∀ call m', c.AllowedEverywhere call.cmd →
            c.step flavor s.after (.command call) = some m' →
            ∃ verdict, m'.trace = s.after.trace ++ [.command ⟨.outside, call⟩ verdict m'.slate] ∧
              verdict.response = .accept ∧ m'.slate.pendingCmdIndex = call.cmd.index) := by
  have hc := init_valid hinit
  have hgraph := Config.sync_validate_graph hflavor hinit
  have hbooks := Config.start_bookkept hc hlawful hstart
  have hfew := Config.times_out_lt_length hc hgraph hlawful hflavor ⟨hbooks, hops, htimed⟩ hstretch
    hevery
  refine ⟨hfew, fun honly hlength => ?_⟩
  -- if every dispatch of the stretch left a command pending, all would time out
  by_contra hnone
  refine absurd (hfew fun x hx => ?_) hlength.not_gt
  obtain ⟨s, hs, hdispatched⟩ := List.mem_filterMap.1 (hstretch.subset hx)
  obtain ⟨before, hinitial, hrun, hstep⟩ := Config.mem_steps hs
  have hregular : ∀ op ∈ before ++ [s.op], op.Regular := fun op hop => hops op (hinitial.subset hop)
  have hbefore : c.Bookkept s.before := by
    refine Config.run_induction hbooks (fun op hop => ?_) hrun
    exact Config.step_bookkept hlawful hflavor (hregular op (List.mem_append_left _ hop))
  have hafter : c.Bookkept s.after :=
    Config.step_bookkept hlawful hflavor (hregular s.op (by simp)) hbefore hstep
  by_cases hfree : s.after.slate.pendingCmdIndex = c.noop
  · refine absurd ⟨s, hs, ⟨x, hdispatched, hx⟩, hfree, fun call m' hcmd hcall => ?_⟩ hnone
    exact Config.free_accepts hfree hafter.executable.cur_state_lt hcmd hcall
  · obtain ⟨m, op, m'⟩ := s
    cases op with
    | command call => cases hdispatched
    | dispatch controlTime env =>
        obtain ⟨m₁, m₂, m₃, cs, d₁, d₂, d₃, d₄, hparts⟩ :=
          Config.sync_step_parts hflavor hbefore.executable.cur_state_lt hstep
        obtain ⟨ev, hev, haccept⟩ := Config.sync_parts_accepts hparts hfree
        have hmem : ev ∈ x.events := by
          cases hdispatched
          rwa [hparts.trace_eq, List.drop_left]
        exact ⟨ev, hmem, honly x hx ev hmem haccept⟩
    | forceState controlTime stateNum curEventSeqTime env => cases hdispatched

namespace Sample

/-- Outside code in which the event sequences of `idle` have ended. -/
def idleTimesOut : Environment
  | .dispatchSeqs .now 1 _ => {}
  | cb => quiet cb

/-- The same, with a post task that issues `go` and `back` whenever it is dispatched. -/
def restless : Environment
  | .dispatch 1 controlTime =>
      { cmds := [⟨controlTime, cmd "go"⟩, ⟨controlTime, cmd "back"⟩], time := nanoTMin }
  | cb => idleTimesOut cb

/-- The sample machine is sent to `idle`, where it times out in the second dispatch. -/
def idleRun : List Op :=
  [.command ⟨5, cmd "go"⟩, .dispatch 10 quiet, .dispatch 20 idleTimesOut]

/-- Four dispatches, each followed by the command `halt` from outside. -/
def haltRun : List Op :=
  [.dispatch 10 restless, .command ⟨10, cmd "halt"⟩, .dispatch 20 restless,
    .command ⟨20, cmd "halt"⟩, .dispatch 30 restless, .command ⟨30, cmd "halt"⟩,
    .dispatch 40 restless, .command ⟨40, cmd "halt"⟩]

end Sample

/-- The sample machine times out in one dispatch, which is less than its number of states. -/
theorem timeouts_let_commands_in_sample :
    (((Sample.config .sync).dispatches .sync Sample.idleRun (Sample.started .sync)).drop 1).length <
      (Sample.config .sync).state.length := by
  refine (timeouts_let_commands_in (by decide) (Sample.init_eq .sync)
    (fun _ => Sample.lawful .sync) (Sample.start_eq .sync) ?_ (by decide)
    (List.drop_suffix 1 _).isInfix ?_).1 (by decide)
  · simp [Sample.idleRun, Op.Regular, nanoTMax]
  · unfold Config.EveryPeriod
    decide

/-- With a post task that issues commands, `halt` is deferred after four dispatches in a row, one
transition period apart, although it is allowed in all three states. -/
theorem halt_deferred_too_often :
    ∃ m ∈ (Sample.config .sync).run .sync Sample.haltRun (Sample.started .sync),
      (Sample.config .sync).state.length = 3 ∧
      (∀ s < 3, ((Sample.config .sync).leadsTo s (Sample.cmd "halt")).isSome) ∧
      (∀ s ∈ (Sample.config .sync).steps .sync Sample.haltRun (Sample.started .sync),
        (Sample.config .sync).StepTimed s) ∧
      ((Sample.config .sync).dispatches .sync Sample.haltRun (Sample.started .sync)).map
        Dispatched.controlTime = [10, 20, 30, 40] ∧
      (m.trace.filterMap fun
        | .command ⟨.outside, _⟩ verdict _ => some verdict.response
        | _ => none) = [.defer, .defer, .defer, .defer] := by
  decide

end Codon.StateMachine
