import Codon.StateMachine.Dispatch

/-!
# The pending command, its time and the table agree

Between operations, and whenever other code looks at the elements, there is a pending
command exactly when there is a nominal transition time, and the table has an entry for
it in the current state (`Config.Consistent`). The listeners of `state_sig` are the
exception: they find the new state together with the command that has just led to it
(`Config.Announced`). As long as the clock is read away from the ends of `nano_t`, no
assertion fails.
-/

namespace Codon.StateMachine

/-- All commands that are issued during an operation carry readings of the control clock. -/
def Environment.Timed (env : Environment) (c : Config) : Prop :=
  ∀ cb, ∀ call ∈ (env cb).cmds, c.ClockTime call.controlTime

/-- The operation happens at a reading of the control clock. -/
def Op.Timed (c : Config) : Op → Prop
  | .command call => c.ClockTime call.controlTime
  | .dispatch controlTime env => c.ClockTime controlTime ∧ env.Timed c
  | .forceState controlTime _ _ env => c.ClockTime controlTime ∧ env.Timed c

/-- Whether the operation is a call of `force_state`. -/
def Op.forces : Op → Bool
  | .forceState _ _ _ _ => true
  | _ => false

/-- Whether a line of the trace is written during the emission of `state_sig`. -/
def Event.duringStateSig : Event → Bool
  | .callback (.stateSig _) _ => true
  | .command ⟨.callback (.stateSig _), _⟩ _ _ => true
  | _ => false

namespace Config

/-- The elements agree with each other and with the table. -/
structure Consistent (c : Config) (e : SlateElements) : Prop where
  cur_state_lt : e.curState < c.state.length
  noop_iff : e.pendingCmdIndex = c.noop ↔ e.nominalTransitionTime = nanoTMax
  leads : e.pendingCmdIndex ≠ c.noop → ∃ x, c.Goes e.curState e.pendingCmdIndex x

/-- What a listener of `state_sig` finds while a command is carried out: the command is still
pending, and it is what led from the old state to the current one. -/
structure Announced (c : Config) (e : SlateElements) : Prop where
  pending_ne : e.pendingCmdIndex ≠ c.noop
  nominal_ne : e.nominalTransitionTime ≠ nanoTMax
  carried : ∃ old : Nat, e.oldState = old ∧ c.Goes old e.pendingCmdIndex e.curState

/-- What a line of the trace shows to other code. -/
def Observed (c : Config) (ev : Event) : Prop :=
  ∀ e, ev.shows = some e → c.Consistent e ∨ ev.duringStateSig ∧ c.Announced e

/-- A partial transition is still the pending one. -/
def LastAgrees (c : Config) (e : SlateElements) : Prop :=
  e.lastPendingCmdIndex ≠ c.noop → e.lastPendingCmdIndex = e.pendingCmdIndex

/-- The commands carry readings of the control clock. -/
def ClockTimes (c : Config) (cmds : List Issue) : Prop :=
  ∀ issue ∈ cmds, c.ClockTime issue.call.controlTime

variable {c : Config} {env : Environment} {m m' : Machine} {e : SlateElements} {controlTime : Int}

/-! ## Nothing aborts -/

/-- The nominal time is less than a period before the control time, and not after it. -/
theorem nominal_time_bounds (hspec : c.PeriodicSpec) (ht : c.ClockTime controlTime) :
    controlTime - c.transitionPeriod < c.nominalTime controlTime ∧
      c.nominalTime controlTime ≤ controlTime := by
  have hnext := hspec controlTime ht.1 ht.2.1
  unfold nominalTime
  omega

/-- Handling a command does not fail. -/
theorem handle_cmd_total (hspec : c.PeriodicSpec) (ht : c.ClockTime controlTime)
    (e : SlateElements) (cmd : VehicleCmd) : (c.handleCmd e controlTime cmd).isSome := by
  have hnominal := nominal_time_bounds hspec ht
  unfold handleCmd
  split_ifs with hbusy
  · rfl
  · rfl
  · rfl
  split
  · rfl
  split
  · rfl
  have hset : c.setNominalTransitionTime controlTime = some (c.nominalTime controlTime) := by
    simp only [setNominalTransitionTime, bind, Option.bind_eq_some_iff, fsw_assert_eq_some,
      exists_const]
    exact ⟨hnominal.1, hnominal.2, rfl⟩
  split_ifs
  · rfl
  · rfl
  · rfl
  · rfl
  · rfl
  · simp [hset, fsw_assert_of (not_not.1 hbusy)]

/-- Submitting a command does not fail. -/
theorem submit_total (hspec : c.PeriodicSpec) (issue : Issue)
    (ht : c.ClockTime issue.call.controlTime) (m : Machine) :
    ∃ verdict m', c.submit issue m = some (verdict, m') := by
  obtain ⟨⟨verdict, left⟩, hleft⟩ :=
    Option.isSome_iff_exists.1 (handle_cmd_total hspec ht m.slate issue.call.cmd)
  exact ⟨verdict, Machine.log { m with slate := left } (.command issue verdict left),
    by simp [submit, hleft]⟩

/-- Submitting commands does not fail. -/
theorem submit_all_total (hspec : c.PeriodicSpec) {issues : List Issue}
    (ht : c.ClockTimes issues) (m : Machine) : ∃ m', c.submitAll issues m = some m' := by
  induction issues generalizing m with
  | nil => exact ⟨m, rfl⟩
  | cons issue issues ih =>
      obtain ⟨verdict, m₁, hfirst⟩ := submit_total hspec issue (ht issue (by simp)) m
      obtain ⟨m₂, hrest⟩ := ih (fun i hi => ht i (List.mem_cons_of_mem _ hi)) m₁
      exact ⟨m₂, by simp [submitAll, hfirst, hrest]⟩

/-- The commands that callbacks issue have times of the clock. -/
theorem offers_clock_times (henv : env.Timed c) (cbs : List Callback) :
    c.ClockTimes (env.offers cbs) := by
  intro issue hissue
  simp only [Environment.offers, List.mem_flatMap, List.mem_map] at hissue
  obtain ⟨cb, -, call, hcall, rfl⟩ := hissue
  exact henv cb call hcall

/-- Callbacks do not fail. -/
theorem callback_all_total (hspec : c.PeriodicSpec) (henv : env.Timed c) (cbs : List Callback)
    (m : Machine) : ∃ m', c.callbackAll env cbs m = some m' := by
  induction cbs generalizing m with
  | nil => exact ⟨m, rfl⟩
  | cons cb cbs ih =>
      have htimes : c.ClockTimes ((env cb).cmds.map fun call => ⟨.callback cb, call⟩) := by
        intro issue hissue
        obtain ⟨call, hcall, rfl⟩ := List.mem_map.1 hissue
        exact henv cb call hcall
      obtain ⟨m₁, hfirst⟩ := submit_all_total hspec htimes (m.log (.callback cb m.slate))
      obtain ⟨m₂, hrest⟩ := ih m₁
      exact ⟨m₂, by simp [callbackAll, callback, hfirst, hrest]⟩

/-- What performs callbacks in order does not fail. -/
theorem Performs.total {α : Type} {f : Machine → Option (α × Machine)} {cbs : List Callback}
    (hspec : c.PeriodicSpec) (henv : env.Timed c) (h : Performs c env f cbs) (m : Machine) :
    ∃ result m', f m = some (result, m') := by
  obtain ⟨result, hresult⟩ := h
  obtain ⟨m', hm'⟩ := callback_all_total hspec henv cbs m
  exact ⟨result, m', by rw [hresult, hm', Option.map_some]⟩

/-- Transitioning tasks does not fail. -/
theorem transition_tasks_total (hspec : c.PeriodicSpec) (henv : env.Timed c)
    (ht : controlTime ≠ nanoTMax) (phase : Phase) (cs : ControlState) (tasks : List Nat)
    (m : Machine) :
    ∃ good m', c.transitionTasks env phase controlTime cs tasks m = some (good, m') :=
  (performs_transition_tasks ht phase cs tasks).total hspec henv m

/-- A part that is skipped does not fail. -/
theorem only_if_total {f : Machine → Option (Bool × Machine)} {m : Machine} (cond : Prop)
    [Decidable cond] (hf : cond → ∃ good m', f m = some (good, m')) :
    ∃ good m', onlyIf cond f m = some (good, m') := by
  unfold onlyIf
  split_ifs with hcond
  · exact hf hcond
  · exact ⟨true, m, rfl⟩

/-- Handling the pending command does not fail. -/
theorem handle_pending_cmd_total (hspec : c.PeriodicSpec) (henv : env.Timed c)
    (hbusy : m.slate.pendingCmdIndex ≠ c.noop) (transitionTime : Int) (pre post start : Bool) :
    ∃ good m', c.handlePendingCmd env transitionTime pre post start m = some (good, m') := by
  by_cases hbad : transitionTime = nanoTMax ∨
      (c.verbose ∧ c.cmdTable.lookupIndex m.slate.pendingCmdIndex = none) ∨
      ∀ x, ¬c.Goes m.slate.curState m.slate.pendingCmdIndex x
  · exact ⟨false, _, handle_pending_cmd_dropped hbusy hbad pre post start⟩
  · simp only [not_or, not_forall, not_not] at hbad
    obtain ⟨htime, hlookup, x, hgoes⟩ := hbad
    obtain ⟨ncs, hncs⟩ := hgoes.state_eq
    obtain ⟨good, heq⟩ := handle_pending_cmd_eq env hbusy hgoes htime hlookup hncs
      pre post start
    obtain ⟨m₁, hm₁⟩ := callback_all_total hspec henv
      (c.setStateCalls m.slate.curState x ncs transitionTime pre post start) m
    obtain ⟨m₂, hm₂⟩ := callback_all_total hspec henv [.stateSig x]
      (m₁.enter m.slate.pendingCmdIndex x)
    have hsig : c.callback env (.stateSig x) (m₁.enter m.slate.pendingCmdIndex x) = some m₂ := by
      simpa [callbackAll] using hm₂
    exact ⟨good, _, by rw [heq, hm₁, Option.bind_some, hsig, Option.map_some]⟩

/-- Dispatching a sequence does not fail. -/
theorem dispatch_sequence_total (hspec : c.PeriodicSpec) (henv : env.Timed c)
    (ht : c.ClockTime controlTime) (cs : ControlState) (m : Machine) :
    ∃ result m', c.dispatchSequence env cs controlTime m = some (result, m') := by
  unfold dispatchSequence
  split_ifs with hseqs
  · exact ⟨_, m, rfl⟩
  · obtain ⟨m₁, hm₁⟩ := callback_all_total hspec henv
      [.dispatchSeqs .now m.slate.curState controlTime] m
    have hcall : c.callback env (.dispatchSeqs .now m.slate.curState controlTime) m = some m₁ := by
      simpa [callbackAll] using hm₁
    simp only [hcall, bind, Option.bind_some]
    split_ifs with hended
    · obtain ⟨verdict, m₂, hsubmit⟩ := submit_total hspec
        ⟨.timeout, controlTime, c.timeoutCmd⟩ ht { m₁ with slate := _ }
      exact ⟨_, m₂, by rw [hsubmit]; rfl⟩
    · exact ⟨_, _, rfl⟩

/-- Pulling in the next state does not fail. -/
theorem pull_in_total (hspec : c.PeriodicSpec) (henv : env.Timed c) (ht : c.ClockTime controlTime)
    (cs : ControlState) (m : Machine) :
    ∃ result, c.pullInNextState env cs controlTime m = some result := by
  unfold pullInNextState
  split
  · exact ⟨none, rfl⟩
  next x hx =>
  split
  · exact ⟨some m, rfl⟩
  next ncs hncs =>
  obtain ⟨good, m₁, hpre⟩ :=
    transition_tasks_total hspec henv ht.2.2.ne .ahead ncs c.preTasks m
  obtain ⟨ok, m₂, hstart⟩ := (performs_ask (.startSeqs .ahead x controlTime)).total hspec henv m₁
  simp only [transitionPreTasks, hpre, hstart, bind, Option.bind_some]
  split_ifs
  · obtain ⟨ok', m₃, hdispatch⟩ :=
      (performs_ask (.dispatchSeqs .ahead x controlTime)).total hspec henv m₂
    obtain ⟨m₄, hm₄, -⟩ := Option.bind_eq_some_iff.1 hdispatch
    exact ⟨some m₄, by rw [hm₄]; rfl⟩
  · exact ⟨some m₂, rfl⟩

/-! ## What handled commands keep -/

/-- The time of the event sequence does not matter. -/
theorem Consistent.with_event_time (h : c.Consistent e) (time : Int) :
    c.Consistent (e.withEventTime time) :=
  ⟨h.cur_state_lt, h.noop_iff, h.leads⟩

/-- A command that is heard keeps the elements consistent. -/
theorem hear_one_consistent (hspec : c.PeriodicSpec) {call : CmdCall}
    (ht : c.ClockTime call.controlTime) (h : c.Consistent e) : c.Consistent (c.hearOne e call) := by
  unfold hearOne
  split_ifs with htakes
  · obtain ⟨x, hx⟩ := Option.isSome_iff_exists.1 htakes.2
    have hnoop := (leads_to_eq_some.1 hx).1.2.2
    have hnominal := nominal_time_bounds hspec ht
    have hlt := ht.2.2
    refine ⟨h.cur_state_lt, iff_of_false hnoop ?_, fun _ => ⟨x, leads_to_goes hx⟩⟩
    exact (lt_of_le_of_lt hnominal.2 hlt).ne
  · exact h

/-- Commands that are heard keep the elements consistent. -/
theorem hear_consistent (hspec : c.PeriodicSpec) {cmds : List Issue} (ht : c.ClockTimes cmds)
    (h : c.Consistent e) : c.Consistent (c.hear e cmds) :=
  hear_induction h fun _ issue hissue he => hear_one_consistent hspec (ht issue hissue) he

end Config

namespace Stretch

variable {c : Config} {m m' : Machine} {d : List Event} {cbs : List Callback} {cmds : List Issue}

/-- A stretch keeps the elements consistent. -/
theorem consistent (hspec : c.PeriodicSpec) (h : Stretch c m m' d cbs cmds)
    (ht : c.ClockTimes cmds) (hm : c.Consistent m.slate) : c.Consistent m'.slate := by
  obtain ⟨time, hslate⟩ := h.slate_eq
  rw [hslate]
  exact (Config.hear_consistent hspec ht hm).with_event_time time

/-- Whatever a stretch of a consistent machine shows is consistent. -/
theorem observed (hspec : c.PeriodicSpec) (h : Stretch c m m' d cbs cmds)
    (ht : c.ClockTimes cmds) (hm : c.Consistent m.slate) : ∀ ev ∈ d, c.Observed ev := by
  intro ev hev e he
  obtain ⟨heard, time, hinitial, rfl⟩ := h.shown ev hev e he
  have htimes : c.ClockTimes heard := fun issue hissue => ht issue (hinitial.subset hissue)
  exact .inl ((Config.hear_consistent hspec htimes hm).with_event_time time)

/-- The command that was pending before the dispatch is still pending after a stretch. -/
theorem last_agrees (h : Stretch c m m' d cbs cmds) (hm : c.LastAgrees m.slate) :
    c.LastAgrees m'.slate := by
  intro hlast
  rw [h.last_pending_eq] at hlast ⊢
  have hagrees := hm hlast
  rw [h.pending_of_busy (hagrees ▸ hlast), hagrees]

/-- A line of a stretch that consists of one callback belongs to that callback. -/
theorem of_single {env : Environment} {cb : Callback}
    (h : Stretch c m m' d [cb] (env.offers [cb])) {ev : Event} (hev : ev ∈ d) :
    (∃ seen, ev = .callback cb seen) ∨
      ∃ call verdict left, ev = .command ⟨.callback cb, call⟩ verdict left := by
  cases ev with
  | callback cb' seen =>
      have hmem : cb' ∈ calledBack d := List.mem_filterMap.2 ⟨_, hev, rfl⟩
      rw [h.called, List.mem_singleton] at hmem
      exact .inl ⟨seen, by rw [hmem]⟩
  | command issue verdict left =>
      have hmem : issue ∈ handled d := List.mem_filterMap.2 ⟨_, hev, rfl⟩
      rw [h.handled_eq] at hmem
      simp only [Environment.offers, List.flatMap_singleton, List.mem_map] at hmem
      obtain ⟨call, -, rfl⟩ := hmem
      exact .inr ⟨call, verdict, left, rfl⟩
  | stateSet k x =>
      have hmem : (k, x) ∈ stateSets d := List.mem_filterMap.2 ⟨_, hev, rfl⟩
      rw [h.state_sets] at hmem
      cases hmem

end Stretch

namespace Config

variable {c : Config} {env : Environment} {m m' : Machine} {e : SlateElements} {controlTime : Int}

/-! ## What a state change keeps -/

/-- Nothing is pending after the pending command was handled. -/
theorem Changes.cleared {transitionTime : Int} {pre post start : Bool} {d : List Event}
    (h : Changes c env transitionTime pre post start m m' d) :
    m'.slate.pendingCmdIndex = c.noop ∧ m'.slate.nominalTransitionTime = nanoTMax := by
  cases h <;> exact ⟨rfl, rfl⟩

/-- Handling the pending command keeps the elements consistent. -/
theorem Changes.consistent {transitionTime : Int} {pre post start : Bool} {d : List Event}
    (h : Changes c env transitionTime pre post start m m' d) (hm : c.Consistent m.slate) :
    c.Consistent m'.slate where
  cur_state_lt := h.cur_state_lt hm.cur_state_lt
  noop_iff := iff_of_true h.cleared.1 h.cleared.2
  leads hbusy := absurd h.cleared.1 hbusy

/-- While a pending command is handled only the listeners of `state_sig` see it halfway. -/
theorem Changes.observed (hspec : c.PeriodicSpec) (henv : env.Timed c) {transitionTime : Int}
    {pre post start : Bool} {d : List Event}
    (h : Changes c env transitionTime pre post start m m' d)
    (hbusy : m.slate.pendingCmdIndex ≠ c.noop) (hm : c.Consistent m.slate) :
    ∀ ev ∈ d, c.Observed ev := by
  cases h with
  | dropped hbad => simp
  | @carried x ncs m₁ m₂ d₁ d₂ hgoes hncs hbefore hafter =>
      have hpending := hbefore.pending_of_busy hbusy
      have hm₁ := hbefore.consistent hspec (offers_clock_times henv _) hm
      have hentered : c.Announced (m₁.enter m.slate.pendingCmdIndex x).slate := by
        refine ⟨hpending.trans_ne hbusy, ?_, m.slate.curState, ?_, ?_⟩
        · exact fun hnominal => hbusy (hpending ▸ hm₁.noop_iff.2 hnominal)
        · exact congrArg Nat.cast hbefore.cur_state_eq
        · exact hpending.symm ▸ hgoes
      have hsig : ∀ ev ∈ d₂, c.Observed ev := by
        intro ev hev e he
        obtain ⟨heard, time, -, rfl⟩ := hafter.shown ev hev e he
        rw [hear_of_busy hentered.pending_ne]
        refine .inr ⟨?_, hentered.pending_ne, hentered.nominal_ne, hentered.carried⟩
        rcases hafter.of_single hev with ⟨seen, rfl⟩ | ⟨call, verdict, left, rfl⟩ <;> rfl
      intro ev hev
      simp only [List.mem_append, List.mem_cons] at hev
      rcases hev with hev | rfl | hev
      · exact hbefore.observed hspec (offers_clock_times henv _) hm ev hev
      · exact fun e he => nomatch he
      · exact hsig ev hev

/-! ## Whole dispatches -/

/-- A synchronous dispatch of a consistent machine gets through. -/
theorem sync_dispatch_total (hspec : c.PeriodicSpec) (henv : env.Timed c)
    (ht : c.ClockTime controlTime) (hm : c.Consistent m.slate) (hlast : c.LastAgrees m.slate) :
    ∃ m', c.syncDispatch env controlTime m = some m' := by
  obtain ⟨next, m₁, hpre⟩ :=
    (performs_dispatch_tasks controlTime c.preTasks).total hspec henv m
  obtain ⟨d₁, hd₁⟩ :=
    Stretch.callback_all ((performs_dispatch_tasks controlTime c.preTasks).calls hpre)
  have hm₁ := hd₁.consistent hspec (offers_clock_times henv _) hm
  -- a transition that was begun in the dispatch before is of the same command
  have hresumed : (!decide (m₁.slate.lastPendingCmdIndex ≠ c.noop)) = true ∨
      decide (m₁.slate.lastPendingCmdIndex ≠ c.noop) = true ∧
        m₁.slate.lastPendingCmdIndex = m₁.slate.pendingCmdIndex := by
    by_cases hnone : m₁.slate.lastPendingCmdIndex = c.noop
    · exact .inl (by simpa using hnone)
    · exact .inr ⟨by simpa using hnone, hd₁.last_agrees hlast hnone⟩
  obtain ⟨good, m₂, hpending⟩ := only_if_total (decide (m₁.slate.pendingCmdIndex ≠ c.noop))
    fun hbusy => handle_pending_cmd_total hspec henv (of_decide_eq_true hbusy) controlTime
      (!decide (m₁.slate.lastPendingCmdIndex ≠ c.noop)) false
      (!decide (m₁.slate.lastPendingCmdIndex ≠ c.noop))
  -- after `handle_pending_cmd` nothing is pending, which the assertions ask for
  obtain ⟨hm₂, hfree, hnominal⟩ : c.Consistent m₂.slate ∧ m₂.slate.pendingCmdIndex = c.noop ∧
      m₂.slate.nominalTransitionTime = nanoTMax := by
    unfold onlyIf at hpending
    split_ifs at hpending with hbusy
    · obtain ⟨-, d, hd, -⟩ := handle_pending_cmd_changes hpending
      exact ⟨hd.consistent hm₁, hd.cleared⟩
    · cases hpending
      have hfree : m₁.slate.pendingCmdIndex = c.noop := by simpa using hbusy
      exact ⟨hm₁, hfree, hm₁.noop_iff.1 hfree⟩
  -- the rest goes by the state that the machine is in now
  obtain ⟨cs, hcs⟩ : ∃ cs, c.state[m₂.slate.curState]? = some cs :=
    ⟨_, List.getElem?_eq_getElem hm₂.cur_state_lt⟩
  have hpostTasks (m : Machine) :
      ∃ good m', c.transitionPostTasks env .now controlTime cs m = some (good, m') :=
    transition_tasks_total hspec henv ht.2.2.ne .now cs c.postTasks m
  obtain ⟨g₁, n₁, hn₁⟩ := only_if_total
    (decide (m₁.slate.pendingCmdIndex ≠ c.noop) && decide (m₁.slate.lastPendingCmdIndex ≠ c.noop))
    fun _ => hpostTasks m₂
  obtain ⟨seqs, n₂, hn₂⟩ := dispatch_sequence_total hspec henv ht cs n₁
  obtain ⟨g₃, n₃, hn₃⟩ := only_if_total
    (decide (m₁.slate.pendingCmdIndex ≠ c.noop) &&
      !decide (m₁.slate.lastPendingCmdIndex ≠ c.noop))
    fun _ => hpostTasks n₂
  obtain ⟨next', m₃, hpost⟩ :=
    (performs_dispatch_tasks controlTime c.postTasks).total hspec henv n₃
  obtain ⟨result, hpull⟩ := pull_in_total hspec henv ht cs m₃
  simp only [syncDispatch, dispatchPreTasks, dispatchPostTasks, hpre, hpending, hcs, hn₁, hn₂, hn₃,
    hpost, hpull, fsw_assert_of hresumed, fsw_assert_of hfree, fsw_assert_of hnominal, bind,
    Option.bind_some]
  split_ifs
  · cases result with
    | none => exact ⟨m₃, rfl⟩
    | some m₄ => exact ⟨saveLastPending m₄, rfl⟩
  · exact ⟨saveLastPending m₃, rfl⟩

/-- An asynchronous dispatch of a consistent machine gets through. -/
theorem async_dispatch_total (hspec : c.PeriodicSpec) (henv : env.Timed c)
    (ht : c.ClockTime controlTime) (hm : c.Consistent m.slate) :
    ∃ next m', c.asyncDispatch env controlTime m = some (next, m') := by
  obtain ⟨next, m₁, hpre⟩ :=
    (performs_dispatch_tasks controlTime c.preTasks).total hspec henv m
  obtain ⟨d₁, hd₁⟩ :=
    Stretch.callback_all ((performs_dispatch_tasks controlTime c.preTasks).calls hpre)
  have hm₁ := hd₁.consistent hspec (offers_clock_times henv _) hm
  -- a command is due only if one is pending: `nano_t_max` is not a reading of the clock
  have hbusy (hdue : decide (m₁.slate.nominalTransitionTime ≤ controlTime) = true) :
      m₁.slate.pendingCmdIndex ≠ c.noop := by
    intro hfree
    have hmax := hm₁.noop_iff.1 hfree
    have hlt := ht.2.2
    have hle := of_decide_eq_true hdue
    omega
  obtain ⟨good, m₂, hpending⟩ := only_if_total
    (decide (m₁.slate.nominalTransitionTime ≤ controlTime)) fun hdue =>
      handle_pending_cmd_total hspec henv (hbusy hdue) m₁.slate.nominalTransitionTime true true true
  have hm₂ : c.Consistent m₂.slate := by
    unfold onlyIf at hpending
    split_ifs at hpending with hdue
    · obtain ⟨-, d, hd, -⟩ := handle_pending_cmd_changes hpending
      exact hd.consistent hm₁
    · cases hpending
      exact hm₁
  obtain ⟨cs, hcs⟩ : ∃ cs, c.state[m₂.slate.curState]? = some cs :=
    ⟨_, List.getElem?_eq_getElem hm₂.cur_state_lt⟩
  obtain ⟨seqs, m₃, hseqs⟩ := dispatch_sequence_total hspec henv ht cs m₂
  obtain ⟨next', m₄, hpost⟩ :=
    (performs_dispatch_tasks controlTime c.postTasks).total hspec henv m₃
  simp only [asyncDispatch, dispatchPreTasks, dispatchPostTasks, hpre, hpending, hcs, hseqs, hpost,
    bind, Option.bind_some]
  exact ⟨_, m₄, rfl⟩

/-! ## Runs -/

/-- Commands of two stretches have times of the clock. -/
theorem ClockTimes.append {cmds cmds' : List Issue} (h : c.ClockTimes cmds)
    (h' : c.ClockTimes cmds') : c.ClockTimes (cmds ++ cmds') := by
  intro issue hissue
  exact (List.mem_append.1 hissue).elim (h issue) (h' issue)

/-- The command of a timeout has a time of the clock. -/
theorem timeout_clock_times (ht : c.ClockTime controlTime) (stateNum : Nat) (cs : ControlState) :
    c.ClockTimes (c.timeoutCalls env stateNum cs controlTime) := by
  intro issue hissue
  unfold timeoutCalls at hissue
  split_ifs at hissue
  · rw [List.mem_singleton.1 hissue]
    exact ht
  · cases hissue

/-- The commands of the post tasks have times of the clock. -/
theorem after_check_clock_times (henv : env.Timed c) (ht : c.ClockTime controlTime)
    (stateNum : Nat) (cs : ControlState) (transitioned resumed : Bool) :
    c.ClockTimes (afterCheckCmds c env stateNum cs controlTime transitioned resumed) := by
  have htimes (cbs : List Callback) : c.ClockTimes (env.offers cbs) := offers_clock_times henv cbs
  exact ((((htimes _).append (htimes _)).append (timeout_clock_times ht _ _)).append
    (htimes _)).append (htimes _)

/-- Saving the pending command keeps the elements consistent. -/
theorem Consistent.save_last (h : c.Consistent m.slate) :
    c.Consistent (saveLastPending m).slate :=
  ⟨h.cur_state_lt, h.noop_iff, h.leads⟩

/-- What holds of a machine between operations, and of all that it has shown. -/
structure Steady (c : Config) (flavor : Flavor) (m : Machine) : Prop where
  consistent : c.Consistent m.slate
  last_agrees : flavor ≠ .async → c.LastAgrees m.slate
  observed : ∀ ev ∈ m.trace, c.Observed ev

/-- The elements are consistent when they are created. -/
theorem created_consistent (hc : c.Valid) : c.Consistent c.createdElements where
  cur_state_lt := hc.state_pos
  noop_iff := iff_of_true rfl rfl
  leads hbusy := absurd rfl hbusy

/-- The state machine is steady once it is started. -/
theorem start_steady (hc : c.Valid) (hspec : c.PeriodicSpec) (henv : env.Timed c)
    (flavor : Flavor) (h : c.start env = some m) : c.Steady flavor m := by
  obtain ⟨d, cs, hd⟩ := start_stretch h
  have htimes := offers_clock_times henv (c.startCalls cs)
  refine ⟨hd.consistent hspec htimes (created_consistent hc), fun _ => ?_, ?_⟩
  · exact hd.last_agrees fun hlast => absurd rfl hlast
  · rw [hd.trace_eq, List.nil_append]
    exact hd.observed hspec htimes (created_consistent hc)

/-- A dispatch of the synchronous machine keeps it steady. -/
theorem sync_parts_steady (hspec : c.PeriodicSpec) (henv : env.Timed c)
    (ht : c.ClockTime controlTime) {flavor : Flavor} {m₁ m₂ m₃ : Machine} {cs : ControlState}
    {d₁ d₂ d₃ d₄ : List Event} (hm : c.Steady flavor m)
    (h : SyncParts c env controlTime m m₁ m₂ m₃ m' cs d₁ d₂ d₃ d₄) : c.Steady flavor m' := by
  have htimes (cbs : List Callback) : c.ClockTimes (env.offers cbs) := offers_clock_times henv cbs
  have hm₁ := h.dispatched.consistent hspec (htimes _) hm.consistent
  obtain ⟨hm₂, hobserved₂⟩ : c.Consistent m₂.slate ∧ ∀ ev ∈ d₂, c.Observed ev := by
    rcases h.changed with ⟨-, rfl, rfl⟩ | ⟨hbusy, hchanges⟩
    · exact ⟨hm₁, by simp⟩
    · exact ⟨hchanges.consistent hm₁, hchanges.observed hspec henv hbusy hm₁⟩
  have hafter := after_check_clock_times henv ht m₂.slate.curState cs
    (decide (m₁.slate.pendingCmdIndex ≠ c.noop)) (decide (m₁.slate.lastPendingCmdIndex ≠ c.noop))
  have hm₃ := h.after.consistent hspec hafter hm₂
  obtain ⟨hm', hlast', hobserved₄⟩ : c.Consistent m'.slate ∧ c.LastAgrees m'.slate ∧
      ∀ ev ∈ d₄, c.Observed ev := by
    cases h.pulled with
    | idle hfree => exact ⟨hm₃.save_last, fun _ => rfl, by simp⟩
    | pulled hbusy hgoes hncs hahead =>
        have hm₄ := hahead.consistent hspec (htimes _) hm₃
        exact ⟨hm₄.save_last, fun _ => rfl, hahead.observed hspec (htimes _) hm₃⟩
  refine ⟨hm', fun _ => hlast', ?_⟩
  intro ev hev
  simp only [h.trace_eq, List.mem_append] at hev
  rcases hev with hev | ((hev | hev) | hev) | hev
  · exact hm.observed ev hev
  · exact h.dispatched.observed hspec (htimes _) hm.consistent ev hev
  · exact hobserved₂ ev hev
  · exact h.after.observed hspec hafter hm₂ ev hev
  · exact hobserved₄ ev hev

/-- A dispatch of the asynchronous machine keeps it steady. -/
theorem async_parts_steady (hspec : c.PeriodicSpec) (henv : env.Timed c)
    (ht : c.ClockTime controlTime) {m₁ m₂ : Machine} {cs : ControlState} {d₁ d₂ d₃ : List Event}
    (hm : c.Steady .async m) (h : AsyncParts c env controlTime m m₁ m₂ m' cs d₁ d₂ d₃) :
    c.Steady .async m' := by
  have htimes (cbs : List Callback) : c.ClockTimes (env.offers cbs) := offers_clock_times henv cbs
  have hm₁ := h.dispatched.consistent hspec (htimes _) hm.consistent
  obtain ⟨hm₂, hobserved₂⟩ : c.Consistent m₂.slate ∧ ∀ ev ∈ d₂, c.Observed ev := by
    rcases h.changed with ⟨-, rfl, rfl⟩ | ⟨-, hbusy, hchanges⟩
    · exact ⟨hm₁, by simp⟩
    · exact ⟨hchanges.consistent hm₁, hchanges.observed hspec henv hbusy hm₁⟩
  have hafter : c.ClockTimes (env.offers (sequenceCalls m₂.slate.curState cs controlTime) ++
      c.timeoutCalls env m₂.slate.curState cs controlTime ++
      env.offers (dispatchCalls env controlTime c.postTasks)) :=
    ((htimes _).append (timeout_clock_times ht _ _)).append (htimes _)
  refine ⟨h.after.consistent hspec hafter hm₂, fun hsync => absurd rfl hsync, ?_⟩
  intro ev hev
  simp only [h.trace_eq, List.mem_append] at hev
  rcases hev with hev | (hev | hev) | hev
  · exact hm.observed ev hev
  · exact h.dispatched.observed hspec (htimes _) hm.consistent ev hev
  · exact hobserved₂ ev hev
  · exact h.after.observed hspec hafter hm₂ ev hev

/-- One operation gets through and keeps everything. -/
theorem step_steady (hspec : c.PeriodicSpec) {flavor : Flavor} {op : Op} (hop : op.Timed c)
    (hforce : op.forces = false) (hm : c.Steady flavor m) :
    ∃ m', c.step flavor m op = some m' ∧ c.Steady flavor m' := by
  cases op with
  | command call =>
      obtain ⟨verdict, m', hsubmit⟩ := submit_total hspec ⟨.outside, call⟩ hop m
      have hd := Stretch.submit hsubmit
      -- the time of the command is that of a clock, as for every operation
      have htimes : c.ClockTimes [⟨.outside, call⟩] := by
        intro issue hissue
        rw [List.mem_singleton.1 hissue]
        exact hop
      refine ⟨m', by simp [step, hsubmit], hd.consistent hspec htimes hm.consistent,
        fun hsync => hd.last_agrees (hm.last_agrees hsync), ?_⟩
      intro ev hev
      rw [hd.trace_eq, List.mem_append] at hev
      rcases hev with hev | hev
      · exact hm.observed ev hev
      · exact hd.observed hspec htimes hm.consistent ev hev
  | dispatch controlTime env =>
      obtain ⟨ht, henv⟩ := hop
      by_cases hflavor : flavor = .async
      · subst hflavor
        obtain ⟨next, m', hdispatch⟩ := async_dispatch_total hspec henv ht hm.consistent
        obtain ⟨m₁, m₂, cs, d₁, d₂, d₃, hparts⟩ :=
          async_parts hm.consistent.cur_state_lt hdispatch
        exact ⟨m', by simp [step, hdispatch], async_parts_steady hspec henv ht hm hparts⟩
      · obtain ⟨m', hdispatch⟩ :=
          sync_dispatch_total hspec henv ht hm.consistent (hm.last_agrees hflavor)
        obtain ⟨m₁, m₂, m₃, cs, d₁, d₂, d₃, d₄, hparts⟩ :=
          sync_parts hm.consistent.cur_state_lt hdispatch
        refine ⟨m', ?_, sync_parts_steady hspec henv ht hm hparts⟩
        cases flavor with
        | async => exact absurd rfl hflavor
        | sync => exact hdispatch
        | settableSync => exact hdispatch
  | forceState controlTime stateNum curEventSeqTime env => cases hforce

/-- A run gets through and keeps everything. -/
theorem run_steady (hspec : c.PeriodicSpec) {flavor : Flavor} {ops : List Op}
    (hops : ∀ op ∈ ops, op.Timed c ∧ op.forces = false) (hm : c.Steady flavor m) :
    ∃ m', c.run flavor ops m = some m' ∧ c.Steady flavor m' := by
  induction ops generalizing m with
  | nil => exact ⟨m, rfl, hm⟩
  | cons op ops ih =>
      obtain ⟨hop, hforce⟩ := hops op (by simp)
      obtain ⟨m₁, hstep, hm₁⟩ := step_steady hspec hop hforce hm
      obtain ⟨m₂, hrun, hm₂⟩ := ih (fun o ho => hops o (List.mem_cons_of_mem _ ho)) hm₁
      exact ⟨m₂, by simpa [run, hstep] using hrun, hm₂⟩

end Config

/-- Whatever is done to a machine at readings of the control clock, no assertion fails; all that
other code sees of the elements is consistent, except for the listeners of `state_sig`, to whom the
command that is being carried out is still pending; and a partial transition is still pending when
the next synchronous dispatch starts. -/
theorem pending_cmd_consistent {flavor : Flavor} {inp : Inputs} {c : Config}
    (hinit : init flavor inp = some c) (hspec : c.PeriodicSpec) {env₀ : Environment}
    (henv₀ : env₀.Timed c) {m₀ : Machine} (hstart : c.start env₀ = some m₀) {ops : List Op}
    (hops : ∀ op ∈ ops, op.Timed c ∧ op.forces = false) :
    ∃ m, c.run flavor ops m₀ = some m ∧ c.Consistent m.slate ∧
      (flavor ≠ .async → c.LastAgrees m.slate) ∧ ∀ ev ∈ m.trace, c.Observed ev := by
  have hm₀ := Config.start_steady (init_valid hinit) hspec henv₀ flavor hstart
  obtain ⟨m, hrun, hm⟩ := Config.run_steady hspec hops hm₀
  exact ⟨m, hrun, hm.consistent, hm.last_agrees, hm.observed⟩

/-- Tasks that issue nothing issue nothing late. -/
theorem Sample.quiet_timed (c : Config) : Sample.quiet.Timed c := by
  intro cb call hcall
  cases hcall

/-- The sample machine is sent to `idle` and dispatched. -/
theorem pending_cmd_consistent_sample :
    ∃ m, (Sample.config .sync).run .sync
        [.command ⟨5, Sample.cmd "go"⟩, .dispatch 10 Sample.quiet] (Sample.started .sync) = some m ∧
      (Sample.config .sync).Consistent m.slate ∧
      (Flavor.sync ≠ .async → (Sample.config .sync).LastAgrees m.slate) ∧
      ∀ ev ∈ m.trace, (Sample.config .sync).Observed ev := by
  have htime (t : Int) (hlow : 0 ≤ t) (hhigh : t ≤ 10) : (Sample.config .sync).ClockTime t :=
    Sample.clock_time .sync (by simp [nanoTMin]; omega) (by simp [nanoTMax]; omega)
  refine pending_cmd_consistent (Sample.init_eq .sync) (Sample.periodic_spec .sync)
    (Sample.quiet_timed _) (Sample.start_eq .sync) ?_
  intro op hop
  simp only [List.mem_cons, List.not_mem_nil, or_false] at hop
  rcases hop with rfl | rfl
  · exact ⟨htime 5 (by decide) (by decide), rfl⟩
  · exact ⟨⟨htime 10 (by decide) (by decide), Sample.quiet_timed _⟩, rfl⟩

/-- When the sample machine goes from `idle` to `active`, the listeners of `state_sig` find the
command `go` pending in a state that has no entry for it. And an asynchronous dispatch at
`nano_t_max` with nothing pending fails the assertion of `handle_pending_cmd`. -/
theorem pending_cmd_not_always_consistent :
    (∃ m ∈ (Sample.config .sync).run .sync
        [.command ⟨5, Sample.cmd "go"⟩, .dispatch 10 Sample.quiet,
          .command ⟨15, Sample.cmd "go"⟩, .dispatch 20 Sample.quiet] (Sample.started .sync),
      ∃ ev ∈ m.trace, ∃ e ∈ ev.shows,
        e.pendingCmdIndex ≠ (Sample.config .sync).noop ∧
          (Sample.config .sync).entry e.curState e.pendingCmdIndex = some undefinedState) ∧
      (Sample.config .async).run .async [.dispatch nanoTMax Sample.quiet]
        (Sample.started .async) = none := by
  decide

end Codon.StateMachine
