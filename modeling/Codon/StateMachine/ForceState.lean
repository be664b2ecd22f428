import Codon.StateMachine.Dispatch

/-!
# Forcing a state

`force_state` clears the pending command and then makes the callbacks of a transition
before it assigns the new state. A command that is accepted during these callbacks was
judged by the state that is being left, and stays pending in the forced one, which may
have no entry for it. Everything else keeps the pending command and the table in
agreement, so a run goes wrong exactly where a forced state meets such a command.
-/

namespace Codon.StateMachine

namespace Config

/-- The table knows where the pending command leads from the current state. -/
def PendingLeads (c : Config) (e : SlateElements) : Prop :=
  e.pendingCmdIndex ≠ c.noop → ∃ x, c.Goes e.curState e.pendingCmdIndex x

/-- The elements that `force_state` starts from. -/
def forgetPending (c : Config) (m : Machine) : Machine :=
  { m with slate := { c.clearPending m.slate with lastPendingCmdIndex := c.noop } }

/-- What `force_state` does: nothing more than forgetting the pending command, or a state change
between two stretches. -/
inductive Forces (c : Config) (env : Environment) (transitionTime : Int) (stateNum : Nat)
    (m : Machine) : Machine → Prop where
  | refused
      (hbad : c.state[stateNum]? = none ∨
        (c.verbose ∧ c.cmdTable.lookupIndex c.noop = none)) :
      Forces c env transitionTime stateNum m (c.forgetPending m)
  | forced {ncs : ControlState} {m₁ m₂ : Machine} {d₁ d₂ : List Event} (time : Int)
      (hlookup : ¬(c.verbose ∧ c.cmdTable.lookupIndex c.noop = none))
      (hncs : c.state[stateNum]? = some ncs)
      (hbefore : Stretch c (c.forgetPending m) m₁ d₁
        (c.setStateCalls m.slate.curState stateNum ncs transitionTime true true true)
        (env.offers (c.setStateCalls m.slate.curState stateNum ncs transitionTime true true true)))
      (hafter : Stretch c (m₁.enter c.noop stateNum) m₂ d₂ [.stateSig stateNum]
        (env.offers [.stateSig stateNum])) :
      Forces c env transitionTime stateNum m
        { m₂ with slate := m₂.slate.withEventTime time }

/-- A call of `force_state` leaves an agreeing machine: the first command that is issued before the
state changes and is a transition in the state that is left is one in the forced state as well. -/
def ForceSafe (c : Config) (e : SlateElements) : Op → Prop
  | .forceState controlTime stateNum curEventSeqTime env =>
      ¬(c.verbose ∧ c.cmdTable.lookupIndex c.noop = none) →
        ∀ ncs ∈ c.state[stateNum]?,
          ∀ issue ∈ (env.offers (c.setStateCalls e.curState stateNum ncs
              (controlTime - curEventSeqTime) true true true)).find?
              fun issue => (c.leadsTo e.curState issue.call.cmd).isSome,
            ∃ y, c.Goes stateNum issue.call.cmd.index y
  | _ => True

variable {c : Config} {env : Environment} {m m' : Machine} {controlTime : Int}

/-- A forced state is entered as described by `Forces`. -/
theorem force_state_forces {stateNum : Nat} {curEventSeqTime : Int} {good : Bool}
    (h : c.forceState env controlTime stateNum curEventSeqTime m = some (good, m')) :
    Forces c env (controlTime - curEventSeqTime) stateNum m m' := by
  simp only [forceState, bind, pure, Option.bind_eq_some_iff] at h
  obtain ⟨⟨ok, m₁⟩, hset, h⟩ := h
  -- the assertion of `set_state` on its time
  have htime : controlTime - curEventSeqTime ≠ nanoTMax := by
    simp only [setState, bind, Option.bind_eq_some_iff, fsw_assert_eq_some, exists_const] at hset
    exact hset.1
  have hset : c.setState env stateNum c.noop (controlTime - curEventSeqTime) true true true
    (c.forgetPending m) = some (ok, m₁) := hset
  -- `set_state` refuses a command or a state that it cannot look up
  by_cases hlookup : c.verbose ∧ c.cmdTable.lookupIndex c.noop = none
  · simp only [setState, fsw_assert_of htime, hlookup, and_self, if_true, bind, pure,
      Option.bind_some] at hset
    cases hset
    cases h
    exact .refused (.inr hlookup)
  cases hncs : c.state[stateNum]? with
  | none =>
      simp only [setState, fsw_assert_of htime, hlookup, if_false, hncs, bind, pure,
        Option.bind_some] at hset
      cases hset
      cases h
      exact .refused (.inl hncs)
  | some ncs =>
      obtain ⟨ok', heq⟩ := set_state_eq env htime hlookup hncs true true true (c.forgetPending m)
      rw [heq] at hset
      obtain ⟨n₁, hcalls, hset⟩ := Option.bind_eq_some_iff.1 hset
      obtain ⟨n₂, hsig, hset⟩ := Option.map_eq_some_iff.1 hset
      cases hset
      obtain ⟨d₁, hd₁⟩ := Stretch.callback_all hcalls
      have hsig : c.callbackAll env [.stateSig stateNum] (n₁.enter c.noop stateNum) = some m₁ := by
        simp [callbackAll, hsig]
      obtain ⟨d₂, hd₂⟩ := Stretch.callback_all hsig
      split_ifs at h
      · cases h
        exact .forced curEventSeqTime hlookup hncs hd₁ hd₂
      · cases h
        exact .forced m₁.slate.eventSequenceTime hlookup hncs hd₁ hd₂

/-- With nothing pending a stretch leaves the table and the pending command in agreement. -/
theorem pending_leads_of_free {d : List Event} {cbs : List Callback} {cmds : List Issue}
    (h : Stretch c m m' d cbs cmds) (hfree : m.slate.pendingCmdIndex = c.noop) :
    c.PendingLeads m'.slate := by
  intro hbusy
  rw [h.pending_eq] at hbusy ⊢
  rw [h.cur_state_eq]
  exact hear_goes hfree hbusy

/-- A stretch keeps what is pending leading somewhere. -/
theorem PendingLeads.stretch {d : List Event} {cbs : List Callback} {cmds : List Issue}
    (hm : c.PendingLeads m.slate) (h : Stretch c m m' d cbs cmds) : c.PendingLeads m'.slate := by
  by_cases hbusy : m.slate.pendingCmdIndex = c.noop
  · exact pending_leads_of_free h hbusy
  · intro _
    rw [h.pending_of_busy hbusy, h.cur_state_eq]
    exact hm hbusy

/-- `force_state` leaves an agreeing machine exactly when it is safe. -/
theorem force_state_leads_iff {stateNum : Nat} {curEventSeqTime : Int}
    (h : Forces c env (controlTime - curEventSeqTime) stateNum m m') :
    c.PendingLeads m'.slate ↔
      c.ForceSafe m.slate (.forceState controlTime stateNum curEventSeqTime env) := by
  cases h with
  | refused hbad =>
      refine iff_of_true (fun hbusy => absurd rfl hbusy) fun hlookup ncs hncs => ?_
      rcases hbad with hnone | hbad
      · rw [hnone] at hncs
        cases hncs
      · exact absurd hbad hlookup
  | @forced ncs m₁ m₂ d₁ d₂ time hlookup hncs hbefore hafter =>
      have hcur : m₂.slate.curState = stateNum := hafter.cur_state_eq
      have hfree : (c.forgetPending m).slate.pendingCmdIndex = c.noop := rfl
      -- the commands before the state change are judged by the state that is left
      have hheard : m₁.slate.pendingCmdIndex = _ :=
        hbefore.pending_eq.trans (congrArg _ (hear_of_free hfree _))
      simp only [ForceSafe, hncs, Option.mem_def, Option.some.injEq, forall_eq', hlookup,
        not_false_eq_true, forall_const]
      have hstate : (c.forgetPending m).slate.curState = m.slate.curState := rfl
      rw [hstate] at hheard
      cases hfind : (env.offers (c.setStateCalls m.slate.curState stateNum ncs
          (controlTime - curEventSeqTime) true true true)).find?
          fun issue => (c.leadsTo m.slate.curState issue.call.cmd).isSome with
      | none =>
          rw [hfind] at hheard
          refine iff_of_true ?_ fun issue hissue => by cases hissue
          exact pending_leads_of_free hafter hheard
      | some issue =>
          rw [hfind] at hheard
          have htaken := List.find?_some hfind
          obtain ⟨x, hx⟩ := Option.isSome_iff_exists.1 htaken
          have hnoop : issue.call.cmd.index ≠ c.noop := (leads_to_eq_some.1 hx).1.2.2
          have hpending : m₂.slate.pendingCmdIndex = issue.call.cmd.index := by
            have hentered : (m₁.enter c.noop stateNum).slate.pendingCmdIndex ≠ c.noop :=
              hheard.trans_ne hnoop
            exact (hafter.pending_of_busy hentered).trans hheard
          simp only [Option.some.injEq, forall_eq']
          change (m₂.slate.pendingCmdIndex ≠ c.noop →
            ∃ y, c.Goes m₂.slate.curState m₂.slate.pendingCmdIndex y) ↔ _
          rw [hpending, hcur]
          exact forall_prop_of_true hnoop

/-- So does a whole synchronous dispatch. -/
theorem sync_parts_leads {m₁ m₂ m₃ : Machine} {cs : ControlState} {d₁ d₂ d₃ d₄ : List Event}
    (h : SyncParts c env controlTime m m₁ m₂ m₃ m' cs d₁ d₂ d₃ d₄) :
    m'.slate.curState < c.state.length ∧ c.PendingLeads m'.slate := by
  have hcur₃ : m₃.slate.curState < c.state.length := by
    rw [h.after.cur_state_eq]
    exact (List.getElem?_eq_some_iff.1 h.state_eq).1
  have hm₃ := pending_leads_of_free h.after h.free
  cases h.pulled with
  | idle hfree => exact ⟨hcur₃, hm₃⟩
  | pulled hbusy hgoes hncs hahead =>
      have hm₄ := hm₃.stretch hahead
      exact ⟨hahead.cur_state_eq.trans_lt hcur₃, hm₄⟩

/-- One operation keeps the agreement unless it is an unsafe `force_state`. -/
theorem step_leads {op : Op} (hcur : m.slate.curState < c.state.length)
    (hm : c.PendingLeads m.slate) (h : c.step .settableSync m op = some m') :
    m'.slate.curState < c.state.length ∧ (c.PendingLeads m'.slate ↔ c.ForceSafe m.slate op) := by
  cases op with
  | command call =>
      obtain ⟨⟨verdict, m₁⟩, hsubmit, rfl⟩ := Option.map_eq_some_iff.1 h
      have hd := Stretch.submit hsubmit
      exact ⟨hd.cur_state_eq.trans_lt hcur, iff_of_true (hm.stretch hd) trivial⟩
  | dispatch controlTime env =>
      obtain ⟨m₁, m₂, m₃, cs, d₁, d₂, d₃, d₄, hparts⟩ := sync_parts hcur h
      have hm' := sync_parts_leads hparts
      exact ⟨hm'.1, iff_of_true hm'.2 trivial⟩
  | forceState controlTime stateNum curEventSeqTime env =>
      obtain ⟨⟨good, m₁⟩, hforce, rfl⟩ := Option.map_eq_some_iff.1 h
      have hforces := force_state_forces hforce
      refine ⟨?_, force_state_leads_iff hforces⟩
      cases hforces with
      | refused hbad => exact hcur
      | forced time hlookup hncs hbefore hafter =>
          exact hafter.cur_state_eq.trans_lt (List.getElem?_eq_some_iff.1 hncs).1

/-- Over a run the agreement holds throughout exactly if every `force_state` is safe. -/
theorem steps_lead_iff {ops : List Op} (hcur : m.slate.curState < c.state.length)
    (hm : c.PendingLeads m.slate) :
    (∀ s ∈ c.steps .settableSync ops m, c.PendingLeads s.after.slate) ↔
      ∀ s ∈ c.steps .settableSync ops m, c.ForceSafe s.before.slate s.op := by
  induction ops generalizing m with
  | nil => simp [steps]
  | cons op ops ih =>
      simp only [steps]
      split
      next => simp
      next m' hstep =>
      obtain ⟨hcur', hiff⟩ := step_leads hcur hm hstep
      simp only [List.forall_mem_cons]
      constructor
      · rintro ⟨hfirst, hrest⟩
        exact ⟨hiff.1 hfirst, (ih hcur' hfirst).1 hrest⟩
      · rintro ⟨hfirst, hrest⟩
        exact ⟨hiff.2 hfirst, (ih hcur' (hiff.2 hfirst)).2 hrest⟩

end Config

/-- In a run of a settable machine the pending command has an entry in the current state after
every operation if and only if every `force_state` of the run is safe. -/
theorem forced_pending_leads_iff_safe {inp : Inputs} {c : Config}
    (hinit : init .settableSync inp = some c) {env₀ : Environment} {m₀ : Machine}
    (hstart : c.start env₀ = some m₀) (ops : List Op) :
    (c.PendingLeads m₀.slate ∧
      ∀ s ∈ c.steps .settableSync ops m₀, c.PendingLeads s.after.slate) ↔
      ∀ s ∈ c.steps .settableSync ops m₀, c.ForceSafe s.before.slate s.op := by
  obtain ⟨d, cs, hd⟩ := Config.start_stretch hstart
  have hcur : m₀.slate.curState < c.state.length :=
    hd.cur_state_eq.trans_lt (init_valid hinit).state_pos
  have hm₀ : c.PendingLeads m₀.slate := Config.pending_leads_of_free hd rfl
  rw [← Config.steps_lead_iff hcur hm₀]
  exact and_iff_right hm₀

namespace Sample

/-- Outside code in which the pre task issues `go` when it is transitioned. -/
def insistent : Environment
  | .transition _ transitionTime 0 _ =>
      { cmds := [⟨transitionTime, cmd "go"⟩], time := nanoTMin }
  | cb => quiet cb

end Sample

/-- A quiet `force_state` of the sample machine to `active` and one back. -/
theorem forced_pending_leads_iff_safe_sample :
    ((Sample.config .settableSync).PendingLeads (Sample.started .settableSync).slate ∧
      ∀ s ∈ (Sample.config .settableSync).steps .settableSync
          [.forceState 20 2 0 Sample.quiet, .forceState 30 1 0 Sample.quiet]
          (Sample.started .settableSync),
        (Sample.config .settableSync).PendingLeads s.after.slate) ↔
      ∀ s ∈ (Sample.config .settableSync).steps .settableSync
          [.forceState 20 2 0 Sample.quiet, .forceState 30 1 0 Sample.quiet]
          (Sample.started .settableSync),
        (Sample.config .settableSync).ForceSafe s.before.slate s.op :=
  forced_pending_leads_iff_safe (Sample.init_eq .settableSync) (Sample.start_eq .settableSync) _

/-- The sample machine is forced from `idle` to `active` while its pre task issues `go`, which is a
transition in `idle` only: afterwards `go` is pending in `active`, which has no entry for it. -/
theorem force_state_keeps_stale_command :
    ∃ m ∈ (Sample.config .settableSync).run .settableSync
        [.forceState 20 1 0 Sample.quiet, .forceState 30 2 0 Sample.insistent]
        (Sample.started .settableSync),
      m.slate.pendingCmdIndex ≠ (Sample.config .settableSync).noop ∧
        (Sample.config .settableSync).entry m.slate.curState m.slate.pendingCmdIndex =
          some undefinedState := by
  decide

end Codon.StateMachine
