import Codon.Library.Ledger
import Codon.StateMachine.Runtime

/-!
# Stretches of a run in which the state stays

Between two changes of the current state a run is a sequence of callbacks and of
commands. What it does to the slate depends on the handled commands alone: the first
one that is a transition in the current state takes the pending slot if that is free,
and nothing else happens (`Config.hear`). `Stretch` collects what such a piece of a run
appends to the trace, and `callback_all_stretch` shows that callbacks make a stretch.

The loops over control tasks and the callbacks of `set_state` are then rewritten as
lists of callbacks, so that the results about `dispatch` only compose stretches.
-/

namespace Codon.StateMachine

open Codon.Library

/-! ## Reading a trace -/

/-- The callbacks of a trace, in order. -/
def calledBack (d : List Event) : List Callback :=
  d.filterMap fun
    | .callback cb _ => some cb
    | _ => none

/-- The handled commands of a trace, in order. -/
def handled (d : List Event) : List Issue :=
  d.filterMap fun
    | .command issue _ _ => some issue
    | _ => none

/-- The state changes of a trace, in order: the command and the new state of each. -/
def stateSets (d : List Event) : List (Nat × Nat) :=
  d.filterMap fun
    | .stateSet cmdIndex target => some (cmdIndex, target)
    | _ => none

/-- The slate elements that a line of the trace shows to other code. -/
def Event.shows : Event → Option SlateElements
  | .callback _ seen => some seen
  | .command _ _ left => some left
  | .stateSet _ _ => none

@[simp] theorem called_back_append (d d' : List Event) :
    calledBack (d ++ d') = calledBack d ++ calledBack d' := List.filterMap_append

@[simp] theorem handled_append (d d' : List Event) :
    handled (d ++ d') = handled d ++ handled d' := List.filterMap_append

@[simp] theorem state_sets_append (d d' : List Event) :
    stateSets (d ++ d') = stateSets d ++ stateSets d' := List.filterMap_append

/-- Every line of a trace shows the state that was set last before it: the trace starts in one state
and ends in another. -/
inductive ShowsStates : Nat → List Event → Nat → Prop
  | nil (s : Nat) : ShowsStates s [] s
  | set (s : Nat) {t cmdIndex target : Nat} {d : List Event} :
      ShowsStates target d t → ShowsStates s (.stateSet cmdIndex target :: d) t
  | shown {t : Nat} {ev : Event} {e : SlateElements} {d : List Event} :
      ev.shows = some e → ShowsStates e.curState d t → ShowsStates e.curState (ev :: d) t

/-- A trace that ends in the state in which another one starts can be continued by it. -/
theorem ShowsStates.append {s t u : Nat} {d d' : List Event} (h : ShowsStates s d t)
    (h' : ShowsStates t d' u) : ShowsStates s (d ++ d') u := by
  induction h with
  | nil s => exact h'
  | set s _ ih => exact .set s (ih h')
  | shown hev _ ih => exact .shown hev (ih h')

/-- The elements with another value in `event_sequence_time`, which only telemetry reads. -/
def SlateElements.withEventTime (e : SlateElements) (time : Int) : SlateElements :=
  { e with eventSequenceTime := time }

namespace Config

variable (c : Config)

/-- The state that a command leads to from state `s`, if it is a transition there. -/
def leadsTo (s : Nat) (cmd : VehicleCmd) : Option Nat :=
  if cmd.isInvalid ∨ c.cmdTable.check cmd = false ∨ c.cmdTable.isNoop cmd then none
  else (c.entry s cmd.index).filter fun ns =>
    decide (ns ≠ undefinedState ∧ ns ≠ ignoreState ∧ ns < c.state.length)

/-- The transition that a handled command was accepted for: the command that was issued and the
state that the table gives for it. -/
def acceptance : Event → Option (Nat × Nat)
  | .command issue verdict left =>
      if verdict.response = .accept then
        (c.leadsTo left.curState issue.call.cmd).map (issue.call.cmd.index, ·)
      else none
  | _ => none

/-- A trace as a ledger of accepted transitions and state changes. -/
def ledgerEntry : Event → Option (Entry (Nat × Nat))
  | .stateSet cmdIndex target => some (.done (cmdIndex, target))
  | ev => (c.acceptance ev).map .asked

/-- The accepted transitions and the state changes of a trace, in order. -/
def ledger (d : List Event) : List (Entry (Nat × Nat)) := d.filterMap c.ledgerEntry

@[simp] theorem ledger_append (d d' : List Event) :
    c.ledger (d ++ d') = c.ledger d ++ c.ledger d' := List.filterMap_append

/-- The accepted transition that is not carried out yet. -/
def outstanding (e : SlateElements) : Option (Nat × Nat) :=
  if e.pendingCmdIndex = c.noop then none
  else (c.entry e.curState e.pendingCmdIndex).map (e.pendingCmdIndex, ·)

/-! ## What handled commands do -/

/-- The time that an accepted command is said to take effect at. -/
def nominalTime (controlTime : Int) : Int :=
  c.calculateNextTime controlTime c.transitionPeriod - c.transitionPeriod

/-- The elements that accept a command. -/
def accept (e : SlateElements) (call : CmdCall) : SlateElements :=
  { e with
    pendingCmdIndex := call.cmd.index
    nominalTransitionTime := c.nominalTime call.controlTime }

/-- What a handled command does to the slate: it is accepted if nothing is pending and it is a
transition. -/
def hearOne (e : SlateElements) (call : CmdCall) : SlateElements :=
  if e.pendingCmdIndex = c.noop ∧ (c.leadsTo e.curState call.cmd).isSome then c.accept e call
  else e

/-- What handled commands do to the slate. -/
def hear : SlateElements → List Issue → SlateElements
  | e, [] => e
  | e, issue :: issues => hear (c.hearOne e issue.call) issues

/-- The ledger that handled commands write. -/
def accepted : SlateElements → List Issue → List (Entry (Nat × Nat))
  | _, [] => []
  | e, ⟨_, call⟩ :: issues =>
      (if e.pendingCmdIndex = c.noop then
        (c.leadsTo e.curState call.cmd).toList.map fun ns => .asked (call.cmd.index, ns)
      else []) ++ accepted (c.hearOne e call) issues

variable {c : Config} {e e' : SlateElements} {call : CmdCall}

/-- When a command leads to a state. -/
theorem leads_to_eq_some {s ns : Nat} {cmd : VehicleCmd} :
    c.leadsTo s cmd = some ns ↔
      (cmd.isInvalid = false ∧ c.cmdTable.check cmd ∧ cmd.index ≠ c.noop) ∧
        c.entry s cmd.index = some ns ∧ ns ≠ undefinedState ∧ ns ≠ ignoreState ∧
        ns < c.state.length := by
  unfold leadsTo
  split_ifs with hbad
  · refine iff_of_false (by simp) fun hgood => ?_
    simp [hgood.1.1, hgood.1.2.1, CommandTable.isNoop, hgood.1.2.2] at hbad
  · simp only [not_or, Bool.not_eq_true, Bool.not_eq_false, CommandTable.isNoop,
      beq_eq_false_iff_ne] at hbad
    simp [Option.filter_eq_some_iff, hbad]

/-- The two outcomes of `handle_cmd`: the command becomes the pending one, or nothing changes. A
command that comes while another is pending is deferred. -/
theorem handle_cmd_cases {verdict : Verdict}
    (h : c.handleCmd e call.controlTime call.cmd = some (verdict, e')) :
    (e.pendingCmdIndex = c.noop ∧ (c.leadsTo e.curState call.cmd).isSome ∧
      call.controlTime - c.transitionPeriod < c.nominalTime call.controlTime ∧
      c.nominalTime call.controlTime ≤ call.controlTime ∧
      verdict.response = .accept ∧ e' = c.accept e call) ∨
    ((e.pendingCmdIndex = c.noop → c.leadsTo e.curState call.cmd = none) ∧
      (e.pendingCmdIndex ≠ c.noop → verdict.response = .defer) ∧ e' = e) := by
  unfold handleCmd at h
  by_cases hpending : e.pendingCmdIndex ≠ c.noop
  · rw [if_pos hpending] at h
    cases h
    -- a pending command defers every other one
    exact .inr ⟨fun hnoop => absurd hnoop hpending, fun _ => rfl, rfl⟩
  rw [if_neg hpending] at h
  have hfree : e.pendingCmdIndex = c.noop := not_not.1 hpending
  -- with nothing pending, each check that refuses is one of `leadsTo`
  have refused : c.leadsTo e.curState call.cmd = none →
      (e.pendingCmdIndex = c.noop → c.leadsTo e.curState call.cmd = none) ∧
        (e.pendingCmdIndex ≠ c.noop → verdict.response = .defer) ∧ e = e :=
    fun hnone => ⟨fun _ => hnone, fun hbusy => absurd hfree hbusy, rfl⟩
  split_ifs at h with hinvalid hcheck
  · cases h
    exact .inr (refused (by simp [leadsTo, hinvalid]))
  · cases h
    exact .inr (refused (if_pos (.inr (.inl (by simpa using hcheck)))))
  split at h
  next hstate =>
      cases h
      exact .inr (refused (by simp [leadsTo, entry, hstate]))
  next cs hcs =>
  split at h
  next hcmd =>
      cases h
      exact .inr (refused (by simp [leadsTo, entry_eq hcs, hcmd]))
  next ns hns =>
  have hentry : c.entry e.curState call.cmd.index = some ns := by rw [entry_eq hcs, hns]
  split_ifs at h with hundef hignore hnothing hnone hlength
  · cases h
    exact .inr (refused (by simp [leadsTo, hentry, hundef]))
  · cases h
    exact .inr (refused (by simp [leadsTo, hentry, hignore]))
  · cases h
    refine .inr (refused ?_)
    rcases hnothing with rfl | hnoop
    · simp [leadsTo, hentry]
    · simp [leadsTo, hnoop]
  · cases h
    exact .inr (refused (by simp [leadsTo, hentry, hnone]))
  · cases h
    exact .inr (refused (by simp [leadsTo, hentry, hlength]))
  · -- the assertions on the time are those of `set_nominal_transition_time`
    simp only [setNominalTransitionTime, bind, pure, Option.bind_eq_some_iff,
      fsw_assert_eq_some, exists_const] at h
    obtain ⟨-, nominal, ⟨hlate, hearly, hnominal⟩, h⟩ := h
    cases hnominal
    cases h
    simp only [not_or, CommandTable.isNoop, beq_iff_eq] at hnothing
    have hleads : c.leadsTo e.curState call.cmd = some ns :=
      leads_to_eq_some.2 ⟨⟨by simpa using hinvalid, by simpa using hcheck, hnothing.2⟩,
        hentry, hnone, hnothing.1, Nat.lt_of_not_le hlength⟩
    exact .inl ⟨hfree, by simp [hleads], hlate, hearly, rfl, rfl⟩

/-- `handle_cmd` leaves the elements that `hearOne` describes. -/
theorem handle_cmd_left {verdict : Verdict}
    (h : c.handleCmd e call.controlTime call.cmd = some (verdict, e')) :
    e' = c.hearOne e call := by
  unfold hearOne
  rcases handle_cmd_cases h with ⟨hfree, hleads, -, -, -, rfl⟩ | ⟨hnone, -, rfl⟩
  · rw [if_pos ⟨hfree, hleads⟩]
  · rw [if_neg]
    rintro ⟨hfree, hleads⟩
    simp [hnone hfree] at hleads

/-! ## Hearing commands -/

@[simp] theorem hear_one_cur_state : (c.hearOne e call).curState = e.curState := by
  unfold hearOne
  split_ifs <;> rfl

@[simp] theorem hear_one_last_pending :
    (c.hearOne e call).lastPendingCmdIndex = e.lastPendingCmdIndex := by
  unfold hearOne
  split_ifs <;> rfl

/-- While a command is pending another one is not accepted. -/
theorem hear_one_of_busy (h : e.pendingCmdIndex ≠ c.noop) : c.hearOne e call = e :=
  if_neg fun hfree => h hfree.1

/-- Commands are handled one after the other. -/
theorem hear_append (cmds cmds' : List Issue) :
    c.hear e (cmds ++ cmds') = c.hear (c.hear e cmds) cmds' := by
  induction cmds generalizing e with
  | nil => rfl
  | cons issue cmds ih => exact ih

/-- A property that every accepted command keeps survives any number of commands. -/
theorem hear_induction {P : SlateElements → Prop} {cmds : List Issue} (he : P e)
    (hstep : ∀ e, ∀ issue ∈ cmds, P e → P (c.hearOne e issue.call)) : P (c.hear e cmds) := by
  induction cmds generalizing e with
  | nil => exact he
  | cons issue cmds ih =>
      refine ih (hstep e issue (by simp) he) fun e' issue' hissue' => ?_
      exact hstep e' issue' (List.mem_cons_of_mem _ hissue')

@[simp] theorem hear_cur_state (cmds : List Issue) : (c.hear e cmds).curState = e.curState :=
  hear_induction (P := fun e' => e'.curState = e.curState) rfl fun _ _ _ h => by simp [h]

@[simp] theorem hear_last_pending (cmds : List Issue) :
    (c.hear e cmds).lastPendingCmdIndex = e.lastPendingCmdIndex :=
  hear_induction (P := fun e' => e'.lastPendingCmdIndex = e.lastPendingCmdIndex) rfl
    fun _ _ _ h => by simp [h]

/-- While a command is pending no other is accepted. -/
theorem hear_of_busy (h : e.pendingCmdIndex ≠ c.noop) (cmds : List Issue) :
    c.hear e cmds = e := by
  induction cmds with
  | nil => rfl
  | cons issue cmds ih => rwa [hear, hear_one_of_busy h]

/-- With nothing pending the first transition command is accepted. -/
theorem hear_of_free (h : e.pendingCmdIndex = c.noop) (cmds : List Issue) :
    c.hear e cmds =
      match cmds.find? fun issue => (c.leadsTo e.curState issue.call.cmd).isSome with
      | none => e
      | some issue => c.accept e issue.call := by
  induction cmds with
  | nil => rfl
  | cons issue cmds ih =>
      rw [hear, List.find?_cons]
      cases hleads : c.leadsTo e.curState issue.call.cmd with
      | none =>
          simp only [Option.isSome_none]
          rwa [hearOne, if_neg (by simp [hleads])]
      | some ns =>
          simp only [Option.isSome_some]
          rw [hearOne, if_pos ⟨h, by simp [hleads]⟩]
          refine hear_of_busy ?_ cmds
          exact (leads_to_eq_some.1 hleads).1.2.2

/-- What a command does does not depend on the time of the event sequence. -/
theorem hear_one_with_event_time (time : Int) :
    c.hearOne (e.withEventTime time) call = (c.hearOne e call).withEventTime time := by
  by_cases htakes : e.pendingCmdIndex = c.noop ∧ (c.leadsTo e.curState call.cmd).isSome
  · rw [show c.hearOne e call = c.accept e call from if_pos htakes]
    exact if_pos htakes
  · rw [show c.hearOne e call = e from if_neg htakes]
    exact if_neg htakes

/-- What commands do does not depend on the time of the event sequence. -/
theorem hear_with_event_time (time : Int) (cmds : List Issue) :
    c.hear (e.withEventTime time) cmds = (c.hear e cmds).withEventTime time := by
  induction cmds generalizing e with
  | nil => rfl
  | cons issue cmds ih => rw [hear, hear_one_with_event_time, ih, hear]

/-- Which commands are accepted does not depend on the time of the event sequence. -/
theorem accepted_with_event_time (time : Int) (cmds : List Issue) :
    c.accepted (e.withEventTime time) cmds = c.accepted e cmds := by
  induction cmds generalizing e with
  | nil => rfl
  | cons issue cmds ih => rw [accepted, hear_one_with_event_time, ih]; rfl

/-- The ledger of commands is written one command after the other. -/
theorem accepted_append (cmds cmds' : List Issue) :
    c.accepted e (cmds ++ cmds') = c.accepted e cmds ++ c.accepted (c.hear e cmds) cmds' := by
  induction cmds generalizing e with
  | nil => rfl
  | cons issue cmds ih => simp [accepted, hear, ih]

/-- While a command is pending none is accepted. -/
theorem accepted_of_busy (h : e.pendingCmdIndex ≠ c.noop) (cmds : List Issue) :
    c.accepted e cmds = [] := by
  induction cmds with
  | nil => rfl
  | cons issue cmds ih => simp [accepted, h, hear_one_of_busy h, ih]

/-- Accepted commands are a legal ledger: they fill the pending slot when it is free. -/
theorem accepted_settles (cmds : List Issue) :
    Settles (c.outstanding e) (c.accepted e cmds) (c.outstanding (c.hear e cmds)) := by
  induction cmds generalizing e with
  | nil => exact .nil _
  | cons issue cmds ih =>
      refine .append ?_ ih
      by_cases hfree : e.pendingCmdIndex = c.noop
      · rw [if_pos hfree]
        cases hleads : c.leadsTo e.curState issue.call.cmd with
        | none =>
            rw [hearOne, if_neg (by simp [hleads])]
            exact .nil _
        | some ns =>
            obtain ⟨⟨-, -, hnoop⟩, hentry, -⟩ := leads_to_eq_some.1 hleads
            rw [hearOne, if_pos ⟨hfree, by simp [hleads]⟩]
            have hbefore : c.outstanding e = none := if_pos hfree
            have hafter :
                c.outstanding (c.accept e issue.call) = some (issue.call.cmd.index, ns) := by
              simp [outstanding, accept, hnoop, hentry]
            rw [hbefore, hafter]
            exact .asked (.nil _)
      · rw [if_neg hfree, hear_one_of_busy hfree]
        exact .nil _

end Config

/-- The ledger line of a handled command. -/
theorem command_ledger {c : Config} {e e' : SlateElements} {issue : Issue}
    {verdict : Verdict}
    (h : c.handleCmd e issue.call.controlTime issue.call.cmd = some (verdict, e')) :
    c.ledger [.command issue verdict e'] = c.accepted e [issue] := by
  rcases Config.handle_cmd_cases h with ⟨hfree, hleads, -, -, haccept, rfl⟩ | ⟨hnone, hdefer, rfl⟩
  · obtain ⟨ns, hns⟩ := Option.isSome_iff_exists.1 hleads
    simp [Config.ledger, Config.ledgerEntry, Config.acceptance, Config.accepted, Config.accept,
      haccept, hfree, hns]
  · by_cases hfree : e'.pendingCmdIndex = c.noop
    · simp [Config.ledger, Config.ledgerEntry, Config.acceptance, Config.accepted, hfree,
        hnone hfree]
    · simp [Config.ledger, Config.ledgerEntry, Config.acceptance, Config.accepted, hfree,
        hdefer hfree]

/-! ## Stretches -/

/-- `Stretch c m m' d cbs cmds`: from `m` to `m'` the trace grows by `d`, in which the callbacks
`cbs` are made, the commands `cmds` are handled and the state stays. Only `event_sequence_time`
may change for another reason than a command. -/
structure Stretch (c : Config) (m m' : Machine) (d : List Event) (cbs : List Callback)
    (cmds : List Issue) : Prop where
  trace_eq : m'.trace = m.trace ++ d
  slate_eq : ∃ time, m'.slate = (c.hear m.slate cmds).withEventTime time
  called : calledBack d = cbs
  handled_eq : handled d = cmds
  state_sets : stateSets d = []
  ledger_eq : c.ledger d = c.accepted m.slate cmds
  commanded : ∀ issue verdict left, .command issue verdict left ∈ d →
    ∃ e, e.curState = m.slate.curState ∧
      c.handleCmd e issue.call.controlTime issue.call.cmd = some (verdict, left)
  shown : ∀ ev ∈ d, ∀ e, ev.shows = some e →
    ∃ heard time, heard <+: cmds ∧ e = (c.hear m.slate heard).withEventTime time

namespace Stretch

variable {c : Config} {m m' m₁ m₂ : Machine} {d d₁ d₂ : List Event} {cbs cbs₁ cbs₂ : List Callback}
  {cmds cmds₁ cmds₂ : List Issue}

/-- The empty stretch. -/
theorem refl (m : Machine) : Stretch c m m [] [] [] where
  trace_eq := by simp
  slate_eq := ⟨_, rfl⟩
  called := rfl
  handled_eq := rfl
  state_sets := rfl
  ledger_eq := rfl
  commanded := by simp
  shown := by simp

/-- A stretch goes on with another one. -/
theorem append (h₁ : Stretch c m m₁ d₁ cbs₁ cmds₁) (h₂ : Stretch c m₁ m₂ d₂ cbs₂ cmds₂) :
    Stretch c m m₂ (d₁ ++ d₂) (cbs₁ ++ cbs₂) (cmds₁ ++ cmds₂) where
  trace_eq := by rw [h₂.trace_eq, h₁.trace_eq, List.append_assoc]
  slate_eq := by
    obtain ⟨time₁, h₁⟩ := h₁.slate_eq
    obtain ⟨time₂, h₂⟩ := h₂.slate_eq
    exact ⟨time₂, by rw [h₂, h₁, Config.hear_with_event_time, Config.hear_append]; rfl⟩
  called := by rw [called_back_append, h₁.called, h₂.called]
  handled_eq := by rw [handled_append, h₁.handled_eq, h₂.handled_eq]
  state_sets := by rw [state_sets_append, h₁.state_sets, h₂.state_sets, List.append_nil]
  ledger_eq := by
    obtain ⟨time₁, hslate⟩ := h₁.slate_eq
    rw [Config.ledger_append, h₁.ledger_eq, h₂.ledger_eq, hslate,
      Config.accepted_with_event_time, Config.accepted_append]
  commanded := by
    intro issue verdict left hev
    rcases List.mem_append.1 hev with hev | hev
    · exact h₁.commanded issue verdict left hev
    · obtain ⟨e, hcur, hhandle⟩ := h₂.commanded issue verdict left hev
      obtain ⟨time, hslate⟩ := h₁.slate_eq
      refine ⟨e, hcur.trans ?_, hhandle⟩
      rw [hslate]
      exact Config.hear_cur_state cmds₁
  shown := by
    intro ev hev e he
    rcases List.mem_append.1 hev with hev | hev
    · obtain ⟨heard, time, hinitial, rfl⟩ := h₁.shown ev hev e he
      exact ⟨heard, time, hinitial.trans (List.prefix_append _ _), rfl⟩
    · obtain ⟨heard, time, hinitial, rfl⟩ := h₂.shown ev hev e he
      obtain ⟨time₁, hslate⟩ := h₁.slate_eq
      refine ⟨cmds₁ ++ heard, time, (List.prefix_append_right_inj _).2 hinitial, ?_⟩
      rw [hslate, Config.hear_with_event_time, Config.hear_append]
      rfl

/-- The pending command changes by the commands that are handled only. -/
theorem pending_eq (h : Stretch c m m' d cbs cmds) :
    m'.slate.pendingCmdIndex = (c.hear m.slate cmds).pendingCmdIndex := by
  obtain ⟨time, hslate⟩ := h.slate_eq
  rw [hslate]
  rfl

/-- The state stays. -/
theorem cur_state_eq (h : Stretch c m m' d cbs cmds) : m'.slate.curState = m.slate.curState := by
  obtain ⟨time, hslate⟩ := h.slate_eq
  rw [hslate]
  exact Config.hear_cur_state cmds

/-- The command that was pending before the dispatch is remembered. -/
theorem last_pending_eq (h : Stretch c m m' d cbs cmds) :
    m'.slate.lastPendingCmdIndex = m.slate.lastPendingCmdIndex := by
  obtain ⟨time, hslate⟩ := h.slate_eq
  rw [hslate]
  exact Config.hear_last_pending cmds

/-- While a command is pending a stretch leaves it pending. -/
theorem pending_of_busy (h : Stretch c m m' d cbs cmds)
    (hbusy : m.slate.pendingCmdIndex ≠ c.noop) :
    m'.slate.pendingCmdIndex = m.slate.pendingCmdIndex := by
  rw [h.pending_eq, Config.hear_of_busy hbusy]

/-- The accepted transition changes by the commands that are handled only. -/
theorem outstanding_eq (h : Stretch c m m' d cbs cmds) :
    c.outstanding m'.slate = c.outstanding (c.hear m.slate cmds) := by
  obtain ⟨time, hslate⟩ := h.slate_eq
  rw [hslate]
  rfl

/-- A stretch is a legal piece of a ledger. -/
theorem settles (h : Stretch c m m' d cbs cmds) :
    Settles (c.outstanding m.slate) (c.ledger d) (c.outstanding m'.slate) := by
  rw [h.ledger_eq, h.outstanding_eq]
  exact Config.accepted_settles cmds

/-- All lines of a stretch show the state that it is in. -/
theorem shows_states (h : Stretch c m m' d cbs cmds) :
    ShowsStates m.slate.curState d m'.slate.curState := by
  have hshown (ev : Event) (hev : ev ∈ d) (e : SlateElements) (he : ev.shows = some e) :
      e.curState = m.slate.curState := by
    obtain ⟨heard, time, -, rfl⟩ := h.shown ev hev e he
    exact Config.hear_cur_state heard
  rw [h.cur_state_eq]
  have hsets := h.state_sets
  clear h
  induction d with
  | nil => exact .nil _
  | cons ev d ih =>
      have hrest := ih fun ev' hev' => hshown ev' (List.mem_cons_of_mem _ hev')
      cases ev with
      | callback cb seen =>
          have hseen := hshown _ List.mem_cons_self seen rfl
          rw [← hseen] at hrest ⊢
          exact .shown rfl (hrest hsets)
      | command issue verdict left =>
          have hleft := hshown _ List.mem_cons_self left rfl
          rw [← hleft] at hrest ⊢
          exact .shown rfl (hrest hsets)
      | stateSet cmdIndex target => cases hsets

/-- A callback that has not issued a command yet. -/
theorem callback (m : Machine) (cb : Callback) :
    Stretch c m (m.log (.callback cb m.slate)) [.callback cb m.slate] [cb] [] where
  trace_eq := rfl
  slate_eq := ⟨_, rfl⟩
  called := rfl
  handled_eq := rfl
  state_sets := rfl
  ledger_eq := rfl
  commanded := by simp
  shown := by
    intro ev hev e he
    obtain rfl := List.mem_singleton.1 hev
    cases he
    exact ⟨[], _, List.prefix_refl _, rfl⟩

/-- A handled command. -/
theorem submit {issue : Issue} {verdict : Verdict} (h : c.submit issue m = some (verdict, m')) :
    Stretch c m m' [.command issue verdict m'.slate] [] [issue] := by
  simp only [Config.submit, bind, pure, Option.bind_eq_some_iff] at h
  obtain ⟨⟨verdict', left⟩, hleft, h⟩ := h
  cases h
  have hheard : left = (c.hear m.slate [issue]).withEventTime left.eventSequenceTime := by
    rw [Config.handle_cmd_left hleft]
    rfl
  exact
    { trace_eq := rfl
      slate_eq := ⟨_, hheard⟩
      called := rfl
      handled_eq := rfl
      state_sets := rfl
      ledger_eq := command_ledger hleft
      commanded := by
        intro issue' verdict'' left' hev
        cases List.mem_singleton.1 hev
        exact ⟨m.slate, rfl, hleft⟩
      shown := by
        intro ev hev e he
        obtain rfl := List.mem_singleton.1 hev
        cases he
        exact ⟨[issue], _, List.prefix_refl _, hheard⟩ }

/-- The telemetry element changes and nothing else happens. -/
theorem set_event_time (m : Machine) (time : Int) :
    Stretch c m { m with slate := { m.slate with eventSequenceTime := time } } [] [] [] where
  trace_eq := by simp
  slate_eq := ⟨time, rfl⟩
  called := rfl
  handled_eq := rfl
  state_sets := rfl
  ledger_eq := rfl
  commanded := by simp
  shown := by simp

end Stretch

namespace Config

variable (c : Config) (env : Environment)

/-- Callbacks, one after the other. -/
def callbackAll : List Callback → Machine → Option Machine
  | [], m => some m
  | cb :: cbs, m => do
      let m ← c.callback env cb m
      callbackAll cbs m

end Config

/-- The commands that are issued during callbacks. -/
def Environment.offers (env : Environment) (cbs : List Callback) : List Issue :=
  cbs.flatMap fun cb => (env cb).cmds.map fun call => ⟨.callback cb, call⟩

/-- Callbacks issue their commands one after the other. -/
theorem offers_append (env : Environment) (cbs cbs' : List Callback) :
    env.offers (cbs ++ cbs') = env.offers cbs ++ env.offers cbs' := List.flatMap_append

namespace Stretch

variable {c : Config} {env : Environment} {m m' : Machine}

/-- Commands that are submitted are a stretch without callbacks. -/
theorem submit_all {issues : List Issue} (h : c.submitAll issues m = some m') :
    ∃ d, Stretch c m m' d [] issues := by
  induction issues generalizing m with
  | nil =>
      cases h
      exact ⟨[], .refl _⟩
  | cons issue issues ih =>
      simp only [Config.submitAll, bind, Option.bind_eq_some_iff] at h
      obtain ⟨⟨verdict, middle⟩, hsubmit, h⟩ := h
      obtain ⟨d, hd⟩ := ih h
      exact ⟨_, (submit hsubmit).append hd⟩

/-- Callbacks make a stretch: they are made in order, and what is heard is what the environment
has them issue. -/
theorem callback_all {cbs : List Callback} (h : c.callbackAll env cbs m = some m') :
    ∃ d, Stretch c m m' d cbs (env.offers cbs) := by
  induction cbs generalizing m with
  | nil =>
      cases h
      exact ⟨[], .refl _⟩
  | cons cb cbs ih =>
      simp only [Config.callbackAll, bind, Option.bind_eq_some_iff] at h
      obtain ⟨middle, hcallback, h⟩ := h
      obtain ⟨d, hd⟩ := submit_all hcallback
      obtain ⟨d', hd'⟩ := ih h
      exact ⟨_, ((callback _ cb).append hd).append hd'⟩

end Stretch

end Codon.StateMachine
