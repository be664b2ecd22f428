import Codon.StateMachine.Consistency
import Codon.StateMachine.ForceState

/-!
# Asking whether a command is allowed

`is_cmd_allowed` repeats the checks of `handle_cmd` without handling the command. It checks
that the table entry is a state before it asks whether the entry is `ignore_state`, which is no
state, so it refuses the commands that are configured to be ignored; and it does not check that
the command belongs to the machine. `JudgedAlike` is when the two agree (`is_cmd_allowed_iff`).
-/

namespace Codon.StateMachine

/-- What `is_cmd_allowed` does: its answer, and whether it aborts with an error message. -/
structure Judgement where
  answer : Bool
  aborted : Bool
deriving DecidableEq

/-- What the machine relies on of a command table: a command that belongs to it has an entry in
every state, and the no-op command is not the timeout. -/
structure CommandTable.Indexed (table : CommandTable) : Prop where
  index_lt : ∀ cmd, table.check cmd = true → cmd.index < table.numCommands
  timeout_ne : ∀ cmd, table.lookup "timeout" = some cmd → cmd.index ≠ table.noopCmdIndex

namespace Config

/-- `StateMachine::is_cmd_allowed`. -/
def isCmdAllowed (c : Config) (e : SlateElements) (cmd : VehicleCmd) : Judgement :=
  if c.cmdTable.isNoop cmd then ⟨true, false⟩
  else
    match c.state[e.curState]? with
    | none => ⟨false, true⟩
    | some cs =>
        match cs.cmds[cmd.index]? with
        | none => ⟨false, true⟩
        | some nextState =>
            if c.state.length ≤ nextState then ⟨false, true⟩
            else if nextState = ignoreState then ⟨true, false⟩
            else if nextState = undefinedState then ⟨false, false⟩
            else ⟨true, false⟩

/-- `handle_cmd` accepts the command. -/
def Accepts (c : Config) (e : SlateElements) (controlTime : Int) (cmd : VehicleCmd) : Prop :=
  ∃ retryAt left, c.handleCmd e controlTime cmd = some (⟨true, .accept, retryAt⟩, left)

/-- The command is valid and one of the machine. -/
def Belongs (c : Config) (cmd : VehicleCmd) : Prop :=
  cmd.isInvalid = false ∧ c.cmdTable.check cmd = true

/-- In the current state the command is configured to be ignored. -/
def Ignores (c : Config) (e : SlateElements) (cmd : VehicleCmd) : Prop :=
  c.entry e.curState cmd.index = some ignoreState

instance (c : Config) (e : SlateElements) (cmd : VehicleCmd) : Decidable (c.Ignores e cmd) :=
  inferInstanceAs (Decidable (_ = _))

/-- The two functions agree on the command: unless it is the no-op it is not ignored, there being
fewer states than the number of `ignore_state`, and if it is not one of the machine, then it is
neither the no-op nor one whose index has an entry that is a state. -/
structure JudgedAlike (c : Config) (e : SlateElements) (cmd : VehicleCmd) : Prop where
  not_ignored : c.Ignores e cmd → c.cmdTable.isNoop cmd = true ∨ ignoreState < c.state.length
  belongs : c.Belongs cmd ∨ c.cmdTable.isNoop cmd = false ∧
    ∀ ns, c.entry e.curState cmd.index = some ns → ns < c.state.length → ns = undefinedState

variable {c : Config} {env : Environment} {m m' : Machine} {e : SlateElements} {controlTime : Int}
  {cmd : VehicleCmd}

/-! ## What the two functions decide -/

/-- A command is allowed when it is the no-op or leads to a state of the machine. -/
theorem is_cmd_allowed_answer : (c.isCmdAllowed e cmd).answer = true ↔
    c.cmdTable.isNoop cmd = true ∨
      ∃ ns, c.entry e.curState cmd.index = some ns ∧ ns < c.state.length ∧
        ns ≠ undefinedState := by
  unfold isCmdAllowed
  split
  next hnoop => exact iff_of_true rfl (.inl hnoop)
  next hnoop =>
  rw [or_iff_right hnoop]
  split
  next hstate => simp [entry, hstate]
  next cs hcs =>
  rw [entry_eq hcs]
  split
  next hcmd => simp [hcmd]
  next ns hns =>
  simp only [hns, Option.some.injEq, exists_eq_left']
  split_ifs with hlength hignore hundefined
  · exact iff_of_false not_false fun h => absurd h.1 hlength.not_gt
  · exact iff_of_true rfl ⟨not_le.1 hlength, by rw [hignore]; decide⟩
  · exact iff_of_false not_false fun h => h.2 hundefined
  · exact iff_of_true rfl ⟨not_le.1 hlength, hundefined⟩

/-- An ignored command other than the no-op makes `is_cmd_allowed` abort. -/
theorem is_cmd_allowed_aborted (h : c.Ignores e cmd) : (c.isCmdAllowed e cmd).aborted = false ↔
    c.cmdTable.isNoop cmd = true ∨ ignoreState < c.state.length := by
  obtain ⟨cs, hcs, hns⟩ := Option.bind_eq_some_iff.1 h
  unfold isCmdAllowed
  simp only [hcs, hns]
  split_ifs with hnoop hlength
  · exact iff_of_true rfl (.inl hnoop)
  · exact iff_of_false not_false fun h => h.elim hnoop hlength.not_gt
  · exact iff_of_true rfl (.inr (not_le.1 hlength))

/-- What accepts a command, spelled out in the table of the current state. -/
theorem accepts_iff (hspec : c.PeriodicSpec) (ht : c.ClockTime controlTime)
    (hfree : e.pendingCmdIndex = c.noop) : c.Accepts e controlTime cmd ↔
      c.Belongs cmd ∧ ∃ ns, c.entry e.curState cmd.index = some ns ∧
        ¬(c.timeoutCmd = cmd ∧ ns = undefinedState) ∧
        (ns = ignoreState ∨ c.cmdTable.isNoop cmd = true ∨
          ns < c.state.length ∧ ns ≠ undefinedState) := by
  -- the assertions on the nominal time hold, so `handle_cmd` cannot fail late
  have hset : c.setNominalTransitionTime controlTime = some (c.nominalTime controlTime) := by
    have hnominal := nominal_time_bounds hspec ht
    simp only [setNominalTransitionTime, bind, Option.bind_eq_some_iff, fsw_assert_eq_some,
      exists_const]
    exact ⟨hnominal.1, hnominal.2, rfl⟩
  unfold Accepts Belongs handleCmd
  rw [if_neg (not_not_intro hfree)]
  by_cases hinvalid : cmd.isInvalid = true
  · simp [hinvalid]
  by_cases hcheck : c.cmdTable.check cmd = true
  swap
  · simp [hcheck, hinvalid]
  rw [if_neg hinvalid, if_neg (by simp [hcheck])]
  rw [and_iff_right ⟨Bool.eq_false_of_not_eq_true hinvalid, hcheck⟩]
  split
  next hstate => simp [entry, hstate]
  next cs hcs =>
  rw [entry_eq hcs]
  split
  next hcmd => simp [hcmd]
  next ns hns =>
  simp only [hns, Option.some.injEq, exists_eq_left']
  split_ifs with hundefined hignore hnothing hnone hlength
  · exact iff_of_false (by simp) fun h => h.1 hundefined
  · refine iff_of_true ⟨_, _, rfl⟩ ⟨hundefined, .inl hignore.2⟩
  · exact iff_of_true ⟨_, _, rfl⟩ ⟨hundefined, hnothing.imp_right .inl⟩
  · refine iff_of_false (by simp) fun h => ?_
    rcases h.2 with hignore | hnoop | hstate
    · exact hnothing (.inl hignore)
    · exact hnothing (.inr hnoop)
    · exact hstate.2 hnone
  · refine iff_of_false (by simp) fun h => ?_
    rcases h.2 with hignore | hnoop | hstate
    · exact hnothing (.inl hignore)
    · exact hnothing (.inr hnoop)
    · exact hlength.not_gt hstate.1
  · refine iff_of_true ?_ ⟨hundefined, .inr (.inr ⟨not_le.1 hlength, hnone⟩)⟩
    simp only [fsw_assert_of hfree, hset, bind, Option.bind_some]
    exact ⟨_, _, rfl⟩

/-- If the two functions answer alike, the command belongs to the machine or both refuse it. -/
theorem belongs_of_agree (hspec : c.PeriodicSpec) (ht : c.ClockTime controlTime)
    (hfree : e.pendingCmdIndex = c.noop)
    (hagree : (c.isCmdAllowed e cmd).answer = true ↔ c.Accepts e controlTime cmd) :
    c.Belongs cmd ∨ c.cmdTable.isNoop cmd = false ∧
      ∀ ns, c.entry e.curState cmd.index = some ns → ns < c.state.length →
        ns = undefinedState := by
  rw [is_cmd_allowed_answer, accepts_iff hspec ht hfree] at hagree
  by_contra hbelongs
  rw [not_or, not_and_or] at hbelongs
  obtain ⟨hforeign, hnoop | hstate⟩ := hbelongs
  · exact hforeign (hagree.1 (.inl (Bool.eq_true_of_not_eq_false hnoop))).1
  · push Not at hstate
    obtain ⟨ns, hns, hlt, hne⟩ := hstate
    exact hforeign (hagree.1 (.inr ⟨ns, hns, hlt, hne⟩)).1

/-- Where a command of the machine has an entry in the current state and the no-op is not the
timeout, the two functions answer alike if the command is judged alike. -/
theorem JudgedAlike.agree (h : c.JudgedAlike e cmd) (hspec : c.PeriodicSpec)
    (ht : c.ClockTime controlTime) (hfree : e.pendingCmdIndex = c.noop)
    (hentry : c.cmdTable.check cmd = true → ∃ ns, c.entry e.curState cmd.index = some ns)
    (htimeout : c.cmdTable.isNoop cmd = true → c.timeoutCmd ≠ cmd) :
    (c.isCmdAllowed e cmd).answer = true ↔ c.Accepts e controlTime cmd := by
  rw [is_cmd_allowed_answer, accepts_iff hspec ht hfree]
  constructor
  · intro hallowed
    rcases h.belongs with hbelongs | ⟨hnoop, hstate⟩
    · refine ⟨hbelongs, ?_⟩
      rcases hallowed with hnoop | ⟨ns, hns, hlt, hne⟩
      · obtain ⟨ns, hns⟩ := hentry hbelongs.2
        exact ⟨ns, hns, fun h => htimeout hnoop h.1, .inr (.inl hnoop)⟩
      · exact ⟨ns, hns, fun h => hne h.2, .inr (.inr ⟨hlt, hne⟩)⟩
    · rcases hallowed with hnoop' | ⟨ns, hns, hlt, hne⟩
      · rw [hnoop] at hnoop'
        cases hnoop'
      · exact absurd (hstate ns hns hlt) hne
  · rintro ⟨hbelongs, ns, hns, -, rfl | hnoop | hstate⟩
    · -- the entry is `ignore_state`, which passes for a state only in a table that is long enough
      rcases h.not_ignored hns with hnoop | hlt
      · exact .inl hnoop
      · exact .inr ⟨_, hns, hlt, by decide⟩
    · exact .inl hnoop
    · exact .inr ⟨ns, hns, hstate⟩

/-! ## The current state of a run -/

/-- Every operation leaves a state of the table current. -/
theorem step_cur_state_lt {flavor : Flavor} {op : Op} (hcur : m.slate.curState < c.state.length)
    (h : c.step flavor m op = some m') : m'.slate.curState < c.state.length := by
  cases op with
  | command call =>
      obtain ⟨⟨verdict, m₁⟩, hsubmit, rfl⟩ := Option.map_eq_some_iff.1 h
      exact (Stretch.submit hsubmit).cur_state_eq.trans_lt hcur
  | dispatch controlTime env =>
      by_cases hflavor : flavor = .async
      · subst hflavor
        obtain ⟨⟨next, m₁⟩, hdispatch, rfl⟩ := Option.map_eq_some_iff.1 h
        obtain ⟨m₁, m₂, cs, d₁, d₂, d₃, hparts⟩ := async_parts hcur hdispatch
        have hcur₂ := (List.getElem?_eq_some_iff.1 hparts.state_eq).1
        exact hparts.after.cur_state_eq.trans_lt hcur₂
      · have hdispatch : c.syncDispatch env controlTime m = some m' := by
          cases flavor with
          | async => exact absurd rfl hflavor
          | sync => exact h
          | settableSync => exact h
        obtain ⟨m₁, m₂, m₃, cs, d₁, d₂, d₃, d₄, hparts⟩ := sync_parts hcur hdispatch
        exact (sync_parts_leads hparts).1
  | forceState controlTime stateNum curEventSeqTime env =>
      obtain ⟨⟨good, m₁⟩, hforce, rfl⟩ := Option.map_eq_some_iff.1 h
      cases force_state_forces hforce with
      | refused hbad => exact hcur
      | forced time hlookup hncs hbefore hafter =>
          exact hafter.cur_state_eq.trans_lt (List.getElem?_eq_some_iff.1 hncs).1

end Config

/-! ## The entries of a built machine -/

namespace Inputs

variable {inp : Inputs} {flavor : Flavor} {runAlarm : VehicleCmd} {cs cs' : ControlState}

/-- A command line keeps the size of the table. -/
theorem parse_cmd_line_length {words : List String}
    (h : inp.parseCmdLine flavor runAlarm words cs = some cs') :
    cs'.cmds.length = cs.cmds.length := by
  simp only [parseCmdLine, bind, pure, Option.bind_eq_some_iff, fsw_assert_eq_some,
    exists_const] at h
  obtain ⟨⟨cmd, newState⟩, -, -, h⟩ := h
  split_ifs at h
  cases h
  exact List.length_set

/-- So does a task line. -/
theorem parse_task_line_length {words : List String}
    (h : inp.parseTaskLine words cs = some cs') : cs'.cmds.length = cs.cmds.length := by
  unfold parseTaskLine at h
  split at h
  · simp only [bind, pure, Option.bind_eq_some_iff] at h
    obtain ⟨t, -, state, -, info, -, h⟩ := h
    split_ifs at h
    cases h
    rfl
  · cases h

/-- Hence all the lines of a state do. -/
theorem parse_lines_length {lines : List (List String)}
    (h : inp.parseLines flavor runAlarm lines cs = some cs') :
    cs'.cmds.length = cs.cmds.length := by
  induction lines generalizing cs with
  | nil =>
      cases h
      rfl
  | cons words lines ih =>
      simp only [parseLines, bind] at h
      split at h
      · obtain ⟨middle, hmiddle, h⟩ := Option.bind_eq_some_iff.1 h
        exact (ih h).trans (parse_cmd_line_length hmiddle)
      · obtain ⟨middle, hmiddle, h⟩ := Option.bind_eq_some_iff.1 h
        exact (ih h).trans (parse_task_line_length hmiddle)
      · exact ih h

/-- A state that has been built has an entry for every command of the table. -/
theorem build_state_length {timeoutCmd : VehicleCmd} {name : String}
    (h : inp.buildState flavor timeoutCmd name = some cs) :
    cs.cmds.length = inp.cmdTable.numCommands := by
  simp only [buildState, finalizeStateFromFile, bind, pure, Option.bind_eq_some_iff,
    fsw_assert_eq_some, exists_const] at h
  obtain ⟨seqs, -, runAlarm, -, parsed, hparsed, -, target, -, h⟩ := h
  have hlength := parse_lines_length hparsed
  rw [List.length_replicate] at hlength
  split_ifs at h
  cases h
  exact hlength

end Inputs

variable {flavor : Flavor} {inp : Inputs} {c : Config}

/-- Each state has one entry for every command. -/
theorem init_cmds_length (h : init flavor inp = some c) :
    ∀ cs ∈ c.state, cs.cmds.length = c.cmdTable.numCommands := by
  obtain ⟨-, hstate, -⟩ := init_cases h
  have hall := mapM_answers hstate
  intro cs hcs
  obtain ⟨i, hi, rfl⟩ := List.getElem_of_mem hcs
  rw [(init_members h).1]
  exact Inputs.build_state_length (hall.get (by rwa [hall.length_eq]) hi)

/-- The timeout command is not the no-op. -/
theorem init_timeout_ne (h : init flavor inp = some c) (htable : c.cmdTable.Indexed) :
    c.timeoutCmd.index ≠ c.noop := by
  have htable' := htable.timeout_ne c.timeoutCmd
  simp only [init, bind, pure, Option.bind_eq_some_iff, fsw_assert_eq_some, exists_const] at h
  obtain ⟨timeoutCmd, hlookup, -, state, -, -, -, -, h⟩ := h
  cases h
  exact htable' hlookup

/-- In every state that a run reaches with no command pending, `is_cmd_allowed` answers of a
command what `handle_cmd` would do, and does not abort if the command is ignored, if and only if
the command is judged alike. -/
theorem is_cmd_allowed_iff (hinit : init flavor inp = some c) (hspec : c.PeriodicSpec)
    (htable : c.cmdTable.Indexed) {env₀ : Environment} {m₀ m : Machine}
    (hstart : c.start env₀ = some m₀) {ops : List Op} (hrun : c.run flavor ops m₀ = some m)
    (hfree : m.slate.pendingCmdIndex = c.noop) {controlTime : Int}
    (ht : c.ClockTime controlTime) (cmd : VehicleCmd) :
    (((c.isCmdAllowed m.slate cmd).answer = true ↔ c.Accepts m.slate controlTime cmd) ∧
        (c.Ignores m.slate cmd → (c.isCmdAllowed m.slate cmd).aborted = false)) ↔
      c.JudgedAlike m.slate cmd := by
  have hcur : m.slate.curState < c.state.length := by
    obtain ⟨d, cs, hd⟩ := Config.start_stretch hstart
    exact Config.run_induction (hd.cur_state_eq.trans_lt (init_valid hinit).state_pos)
      (fun op _ _ _ hm => Config.step_cur_state_lt hm) hrun
  have hentry (hcheck : c.cmdTable.check cmd = true) :
      ∃ ns, c.entry m.slate.curState cmd.index = some ns := by
    rw [Config.entry_eq (List.getElem?_eq_getElem hcur)]
    refine ⟨_, List.getElem?_eq_getElem ?_⟩
    rw [init_cmds_length hinit _ (List.getElem_mem hcur)]
    exact htable.index_lt cmd hcheck
  have htimeout (hnoop : c.cmdTable.isNoop cmd = true) : c.timeoutCmd ≠ cmd := by
    rintro rfl
    exact init_timeout_ne hinit htable (by simpa [CommandTable.isNoop] using hnoop)
  constructor
  · rintro ⟨hagree, habort⟩
    refine ⟨fun hignored => ?_, Config.belongs_of_agree hspec ht hfree hagree⟩
    exact (Config.is_cmd_allowed_aborted hignored).1 (habort hignored)
  · intro hjudged
    refine ⟨hjudged.agree hspec ht hfree hentry htimeout, fun hignored => ?_⟩
    exact (Config.is_cmd_allowed_aborted hignored).2 (hjudged.not_ignored hignored)

namespace Sample

/-- The sample's commands are indexed by their numbers. -/
theorem indexed (flavor : Flavor) : (config flavor).cmdTable.Indexed := by
  rw [(init_members (init_eq flavor)).1]
  constructor
  · intro cmd hcheck
    have hname : cmdNames[cmd.index]? = some cmd.name := of_decide_eq_true hcheck
    exact (List.getElem?_eq_some_iff.1 hname).1
  · intro cmd hlookup
    have hcmd : some (Sample.cmd "timeout") = some cmd := hlookup
    cases hcmd
    decide

/-- The sample machine with a `boot` state that ignores `halt`. -/
def ignoringInputs : Inputs :=
  { inputs with
    stateFile
      | "boot" => [["cmd", "go", "idle"], ["cmd", "halt", "ignore"]]
      | name => stateFile name }

end Sample

/-- The sample machine is asked about `go` in `idle`. -/
theorem is_cmd_allowed_sample :
    ((((Sample.config .sync).isCmdAllowed (Sample.started .sync).slate (Sample.cmd "go")).answer =
          true ↔
        (Sample.config .sync).Accepts (Sample.started .sync).slate 5 (Sample.cmd "go")) ∧
      ((Sample.config .sync).Ignores (Sample.started .sync).slate (Sample.cmd "go") →
        ((Sample.config .sync).isCmdAllowed (Sample.started .sync).slate
          (Sample.cmd "go")).aborted = false)) ↔
      (Sample.config .sync).JudgedAlike (Sample.started .sync).slate (Sample.cmd "go") :=
  is_cmd_allowed_iff (Sample.init_eq .sync) (Sample.periodic_spec .sync) (Sample.indexed .sync)
    (Sample.start_eq .sync)
    (show (Sample.config .sync).run .sync [] (Sample.started .sync) =
      some (Sample.started .sync) from rfl) (by decide)
    (Sample.clock_time .sync (by decide) (by decide)) _

/-- In `boot` the command `halt` is ignored: `handle_cmd` accepts it, and `is_cmd_allowed` aborts
with the answer that it is not allowed. -/
theorem ignored_cmd_not_allowed :
    ∃ c ∈ init .sync Sample.ignoringInputs, ∃ m ∈ c.start Sample.quiet,
      m.slate.pendingCmdIndex = c.noop ∧ c.Ignores m.slate (Sample.cmd "halt") ∧
      c.handleCmd m.slate 5 (Sample.cmd "halt") =
        some (⟨true, .accept, nanoTMax⟩, m.slate) ∧
      c.isCmdAllowed m.slate (Sample.cmd "halt") = ⟨false, true⟩ := by
  decide

end Codon.StateMachine
