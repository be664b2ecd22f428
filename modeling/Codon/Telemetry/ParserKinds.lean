import Codon.Telemetry.ParsedFlows

/-!
# The two parsers of one configuration

The control code and the node parse the same configuration, each with its own parser. They
differ in what `external_record` does to the flags, and only the node has groups whose flows
are muxed. Whatever the node accepts, the control code accepts, with the same flows up to
their flags (`parse_file_agrees`).
-/

namespace Codon.Telemetry

variable {c : Constants} {o : ParserOutside c} {kind : ParserKind} {muxedGroups : List Nat}
  {info info' : FlowInfo c} {line : Line} {lines rest : List Line}

/-- The flags are replaced. -/
def FlowInfo.withFlags (flags : Nat) (info : FlowInfo c) : FlowInfo c :=
  { info with staticFlags := flags }

/-- What a line does does not depend on the flags, which it leaves alone. -/
def IgnoresFlags (parse : Line → FlowInfo c → Option (FlowInfo c)) : Prop :=
  ∀ line info flags, parse line (info.withFlags flags) = (parse line info).map (.withFlags flags)

namespace ParserOutside

/-- A `bandwidth` line has nothing to do with the flags. -/
theorem ignores_flags_bandwidth : IgnoresFlags o.parseBandwidthLine := by
  intro line info flags
  unfold parseBandwidthLine
  split
  next burst recharge =>
    cases o.stringToSizeT burst with
    | none => rfl
    | some bandwidthBurst =>
        show (if _ then _ else _) = Option.map _ (if _ then _ else _)
        split_ifs
        · rfl
        · cases o.stringToUint recharge with
          | none => rfl
          | some bandwidthRecharge =>
              show (if _ then _ else _) = Option.map _ (if _ then _ else _)
              split_ifs <;> rfl
  next => rfl

/-- A `timeout` line has nothing to do with the flags. -/
theorem ignores_flags_timeout : IgnoresFlags o.parseTimeoutLine := by
  intro line info flags
  unfold parseTimeoutLine
  split
  next timeout => cases o.stringToNanos timeout <;> rfl
  next => rfl

/-- A `buffer` line has nothing to do with the flags. -/
theorem ignores_flags_buffer : IgnoresFlags o.parseBufferLine := by
  intro line info flags
  unfold parseBufferLine
  split
  next size => cases o.stringToSizeT size <;> rfl
  next => rfl

/-- A line that sets a text. -/
theorem ignores_flags_word {word : String} {set : FlowInfo c → String → FlowInfo c}
    (hset : ∀ info flags value,
      set (info.withFlags flags) value = (set info value).withFlags flags) :
    IgnoresFlags fun line info => parseWordLine word (set info) line := by
  intro line info flags
  unfold parseWordLine
  dsimp only
  split
  next first value =>
    split_ifs
    · exact congrArg some (hset info flags value)
    · rfl
  next => rfl

/-- Neither has a line that is only allowed in annotated flows. -/
theorem ignores_flags_if_annotated {parse : Line → FlowInfo c → Option (FlowInfo c)}
    (h : IgnoresFlags parse) : IgnoresFlags (o.ifAnnotated parse) := by
  intro line info flags
  unfold ifAnnotated
  show (if info.type = o.annotatedDgram then _ else _) = _
  split_ifs
  · exact h line info flags
  · rfl

/-- A line with a disabled destination has nothing to do with the flags. -/
theorem ignores_flags_disabled :
    IgnoresFlags (parseDisabledDestinationLine : Line → FlowInfo c → _) := by
  intro line info flags
  unfold parseDisabledDestinationLine
  split
  next host words =>
    show (if info.hasAltDest then _ else _) = _
    split_ifs
    · rfl
    · show (pushHosts [] info.disabledHosts (host :: words)).map _ = _
      cases pushHosts [] info.disabledHosts (host :: words) <;> rfl
  next => rfl

/-- A line with an alternate destination has nothing to do with the flags. -/
theorem ignores_flags_alt : IgnoresFlags o.parseAltDestinationLines := by
  intro line info flags
  unfold parseAltDestinationLines
  split
  next word host words =>
    cases o.altDest word with
    | none => rfl
    | some i =>
        show (if info.disabledHosts ≠ [] then _ else _) = Option.map _ (if _ then _ else _)
        split_ifs
        · rfl
        · show (pushHosts [] (info.hosts i) (host :: words)).bind _ = _
          cases pushHosts [] (info.hosts i) (host :: words) <;> rfl
  next => rfl

/-! ## Options -/

/-- The second function accepts what the first one does, and only the flags may differ. -/
def AgreesUpToFlags (parse parse' : Line → FlowInfo c → Option (FlowInfo c)) : Prop :=
  ∀ line info info', parse line info = some info' → ∀ flags, ∃ flags',
    parse' line (info.withFlags flags) = some (info'.withFlags flags')

/-- Both parsers treat a line that has nothing to do with the flags in the same way. -/
theorem agrees_of_ignores {parse : Line → FlowInfo c → Option (FlowInfo c)}
    (h : IgnoresFlags parse) : AgreesUpToFlags parse parse := by
  intro line info info' hparse flags
  exact ⟨flags, by rw [h, hparse]; rfl⟩

/-- An `sf` line only adds flags of its own. -/
theorem agrees_sf : AgreesUpToFlags o.parseSfLine o.parseSfLine := by
  intro line info info' hparse flags
  unfold parseSfLine at hparse ⊢
  split at hparse
  next =>
    cases hparse
    exact ⟨flags ||| o.storeAndForward, rfl⟩
  next => cases hparse

/-- The parser of the control code accepts every `external_record`, and that of the node only
changes the flags. -/
theorem agrees_er (kind : ParserKind) :
    AgreesUpToFlags (o.parseErLine kind) (o.parseErLine .control) := by
  intro line info info' hparse flags
  have hflags : ∃ changed, info' = info.withFlags changed := by
    unfold parseErLine at hparse
    split at hparse
    next =>
      cases hparse
      exact ⟨info.staticFlags, rfl⟩
    next ident =>
      split at hparse
      next word =>
        split_ifs at hparse <;> cases hparse <;> exact ⟨_, rfl⟩
      next => cases hparse
  obtain ⟨changed, rfl⟩ := hflags
  exact ⟨flags, rfl⟩

/-- A line with the name has nothing to do with the flags. -/
theorem ignores_flags_name : IgnoresFlags (parseNameLine : Line → FlowInfo c → _) :=
  ignores_flags_word fun _ _ _ => rfl

/-- A line with the role of the source has nothing to do with the flags. -/
theorem ignores_flags_role :
    IgnoresFlags (parseOverrideSourceRoleInst : Line → FlowInfo c → _) :=
  ignores_flags_word fun _ _ _ => rfl

/-- A line with a file of annotations has nothing to do with the flags. -/
theorem ignores_flags_file :
    IgnoresFlags (parsePrecomputedAnnotationFile : Line → FlowInfo c → _) :=
  ignores_flags_word fun _ _ _ => rfl

/-- A line with the channel of the timestamp has nothing to do with the flags. -/
theorem ignores_flags_channel : IgnoresFlags (parseTimestampChannel : Line → FlowInfo c → _) :=
  ignores_flags_word fun _ _ _ => rfl

/-- Two choices under one condition are related if both alternatives are. -/
theorem rel_ite {α β : Type} {R : α → β → Prop} {p : Prop} [Decidable p] {a : α} {b : β}
    {other : Option α} {other' : Option β} (h : R a b) (hother : Option.Rel R other other') :
    Option.Rel R (if p then some a else other) (if p then some b else other') := by
  split_ifs
  · exact .some h
  · exact hother

/-- The two parsers have the same options. -/
theorem option_parser_agrees (o : ParserOutside c) (kind : ParserKind) (word : String) :
    Option.Rel AgreesUpToFlags (o.optionParser kind word) (o.optionParser .control word) := by
  unfold optionParser
  refine rel_ite (agrees_of_ignores ignores_flags_bandwidth) ?_
  refine rel_ite (agrees_of_ignores ignores_flags_timeout) ?_
  refine rel_ite agrees_sf ?_
  refine rel_ite (agrees_er kind) ?_
  refine rel_ite (agrees_of_ignores ignores_flags_buffer) ?_
  refine rel_ite (agrees_of_ignores ignores_flags_name) ?_
  refine rel_ite (agrees_of_ignores ignores_flags_disabled) ?_
  refine rel_ite (agrees_of_ignores ignores_flags_alt) ?_
  refine rel_ite (agrees_of_ignores ignores_flags_role) ?_
  refine rel_ite (agrees_of_ignores (ignores_flags_if_annotated ignores_flags_file)) ?_
  exact rel_ite (agrees_of_ignores (ignores_flags_if_annotated ignores_flags_channel)) .none

/-- The loops over the options end at the same line. -/
theorem parse_options_agrees (h : o.parseOptions kind info lines = some (info', rest))
    (flags : Nat) :
    ∃ flags', o.parseOptions .control (info.withFlags flags) lines =
      some (info'.withFlags flags', rest) := by
  induction lines generalizing info flags with
  | nil =>
      cases h
      exact ⟨flags, rfl⟩
  | cons line lines ih =>
      match line with
      | [] => cases h
      | word :: words =>
        have hparsers := o.option_parser_agrees kind word
        rw [parseOptions] at h ⊢
        split at h
        next hnone =>
          rw [hnone] at hparsers
          generalize o.optionParser .control word = parser at hparsers
          cases hparsers
          cases h
          exact ⟨flags, rfl⟩
        next parse hsome =>
          rw [hsome] at hparsers
          generalize o.optionParser .control word = parser at hparsers
          cases hparsers with
          | some hagrees =>
              obtain ⟨next, hnext, hrest⟩ := Option.bind_eq_some_iff.1 h
              obtain ⟨flags₁, hline⟩ := hagrees _ _ _ hnext flags
              dsimp only
              rw [hline, Option.bind_some]
              exact ih hrest flags₁

/-! ## Flows -/

/-- The text of the configuration does not depend on the flags. -/
theorem parse_config_info_agrees (h : parseConfigInfo info lines = some (info', rest))
    (flags : Nat) :
    parseConfigInfo (info.withFlags flags) lines = some (info'.withFlags flags, rest) := by
  induction lines generalizing info with
  | nil =>
      cases h
      rfl
  | cons line lines ih =>
      match line with
      | [] => cases h
      | word :: words =>
        rw [parseConfigInfo] at h ⊢
        split_ifs at h ⊢
        · cases h
          rfl
        · exact ih h

/-- Multiplexing changes the flags only. -/
theorem add_mux_flag_eq (o : ParserOutside c) (muxedGroups : List Nat) (info : FlowInfo c) :
    ∃ flags, o.addMuxFlag muxedGroups info = info.withFlags flags := by
  unfold addMuxFlag
  split_ifs
  · exact ⟨info.staticFlags ||| o.muxStrings, rfl⟩
  · exact ⟨info.staticFlags, rfl⟩

/-- The two parsers take the same lines for a flow. -/
theorem parse_flow_agrees (h : o.parseFlow kind muxedGroups lines = some (info', rest))
    (groups : List Nat) : ∃ flags,
      o.parseFlow .control groups lines = some (info'.withFlags flags, rest) := by
  unfold parseFlow at h
  split at h
  next header type dest lines =>
    obtain ⟨info₁, hheader, h⟩ := Option.bind_eq_some_iff.1 h
    obtain ⟨info₂, htype, h⟩ := Option.bind_eq_some_iff.1 h
    obtain ⟨info₃, hdest, h⟩ := Option.bind_eq_some_iff.1 h
    obtain ⟨⟨info₄, lines'⟩, hoptions, hconfig⟩ := Option.bind_eq_some_iff.1 h
    dsimp only at hconfig
    obtain ⟨flags, hoptions'⟩ := parse_options_agrees hoptions info₃.staticFlags
    have hsame : info₃.withFlags info₃.staticFlags = info₃ := rfl
    rw [hsame] at hoptions'
    obtain ⟨muxed, hmuxed⟩ := o.add_mux_flag_eq muxedGroups info₄
    obtain ⟨muxed', hmuxed'⟩ := o.add_mux_flag_eq groups (info₄.withFlags flags)
    rw [hmuxed] at hconfig
    have hconfig' := parse_config_info_agrees hconfig muxed'
    refine ⟨muxed', ?_⟩
    unfold parseFlow
    simp only [hheader, htype, hdest, hoptions', hmuxed', Option.bind_eq_bind, Option.bind_some]
    exact hconfig'
  next => cases h

/-- Whatever the node accepts, the control code accepts, with the same flows up to their flags. -/
theorem parse_file_agrees {infos : List (FlowInfo c)}
    (h : o.parseFile kind muxedGroups lines = some infos) (groups : List Nat) :
    ∃ infos', o.parseFile .control groups lines = some infos' ∧
      infos'.map (FlowInfo.withFlags 0) = infos.map (FlowInfo.withFlags 0) := by
  fun_induction parseFile o kind muxedGroups lines generalizing infos with
  | case1 =>
      cases h
      exact ⟨[], by rw [parseFile], rfl⟩
  | case2 => cases h
  | case3 line lines info rest hflow ih =>
      obtain ⟨others, hothers, rfl⟩ := Option.map_eq_some_iff.1 h
      obtain ⟨flags, hflow'⟩ := parse_flow_agrees hflow groups
      obtain ⟨others', hothers', hsame⟩ := ih hothers
      refine ⟨info.withFlags flags :: others', ?_, ?_⟩
      · rw [parseFile]
        split
        next hnone =>
          rw [hflow'] at hnone
          cases hnone
        next hsome =>
          rw [hflow'] at hsome
          cases hsome
          rw [hothers']
          rfl
      · rw [List.map_cons, List.map_cons, hsame]
        rfl

end ParserOutside

end Codon.Telemetry
