import Mathlib.Data.List.Infix
import Mathlib.Data.List.Nodup
import Codon.Telemetry.Aggregation
import Codon.Telemetry.FlowInfoParser

/-!
# What the flow parser makes of a configuration

Every line of a configuration that is accepted is consumed once (`consumed_of_parse_file`). A line
with hosts is checked for hosts that it has twice, but not against the lines before it, so the hosts
of a flow are distinct exactly if no two of its lines for a destination share one
(`flows_sound_iff`).
-/

namespace Codon.Telemetry

variable {c : Constants} {o : ParserOutside c} {kind : ParserKind} {muxedGroups : List Nat}
  {info info' : FlowInfo c} {line : Line}

/-! ## The lines of a flow -/

/-- The lines of a flow, by what they are consumed as. -/
structure FlowLines where
  header : Line
  type : Line
  destination : Line
  options : List Line
  config : List Line

/-- The lines in their order. -/
def FlowLines.lines (flow : FlowLines) : List Line :=
  flow.header :: flow.type :: flow.destination :: (flow.options ++ flow.config)

/-- A line that starts a flow. -/
def isHeader (line : Line) : Bool := line.head? = some "flow"

/-- The text of the lines that are kept. -/
def configText (lines : List Line) : String :=
  String.join (lines.map fun line => " ".intercalate line ++ "\n")

namespace ParserOutside

variable (o) (kind)

/-- A line that is an option. -/
def isOption (line : Line) : Bool := (line.head?.bind (o.optionParser kind)).isSome

/-- What an option does. -/
def parseOption (info : FlowInfo c) (line : Line) : Option (FlowInfo c) :=
  (line.head?.bind (o.optionParser kind)).bind fun parse => parse line info

/-- The list that a line is for. -/
def lineDestination (line : Line) : Option (Destination c) :=
  line.head?.bind fun word =>
    if word = "disabled_destination" then some .disabled else (o.altDest word).map .alt

/-- The hosts that a line gives for a destination. -/
def hostsFor (dest : Destination c) (line : Line) : List String :=
  if o.lineDestination line = some dest then line.tail else []

/-- No two of these lines for a destination share a host. -/
def NoHostRepeated (options : List Line) : Prop :=
  ∀ dest : Destination c, options.Pairwise fun line later =>
    (o.hostsFor dest line).Disjoint (o.hostsFor dest later)

/-- The options of the flow that starts with the first of these lines, if one does. -/
def optionLines (lines : List Line) : List Line :=
  match lines with
  | header :: _ :: _ :: lines => if isHeader header then lines.takeWhile (o.isOption kind) else []
  | _ => []

/-- What the parser relies on of a flow info that has just been constructed. -/
structure StartsEmpty : Prop where
  hosts : ∀ dest, o.constructed.hostsOf dest = []
  configInfo : o.constructed.configInfo = ""

/-- The lines are consumed as those of a flow, whose info is what they say. -/
structure Consumes (muxedGroups : List Nat) (flow : FlowLines) (info : FlowInfo c) : Prop where
  header : isHeader flow.header
  type : flow.type.head? = some "type"
  destination : flow.destination.head? = some "destination"
  options : ∀ line ∈ flow.options, o.isOption kind line
  configStart : ∀ line ∈ flow.config.head?, ¬o.isOption kind line
  config : ∀ line ∈ flow.config, ¬isHeader line
  parsed : ∃ info₁ info₂ info₃ info₄,
    o.parseHeaderLine flow.header o.constructed = some info₁ ∧
    o.parseTypeLine flow.type info₁ = some info₂ ∧
    parseDestinationLine flow.destination info₂ = some info₃ ∧
    flow.options.foldlM (o.parseOption kind) info₃ = some info₄ ∧
    info = { o.addMuxFlag muxedGroups info₄ with configInfo := configText flow.config }

/-- All lines are consumed, as those of one flow for each header. -/
def Consumed (muxedGroups : List Nat) (lines : List Line) (infos : List (FlowInfo c)) : Prop :=
  ∃ flows : List FlowLines, lines = flows.flatMap FlowLines.lines ∧
    flows.map FlowLines.header = lines.filter isHeader ∧
    List.Forall₂ (o.Consumes kind muxedGroups) flows infos

end ParserOutside

namespace FlowInfo

/-- The hosts are distinct exactly if those of each destination are. -/
theorem hosts_distinct_iff (info : FlowInfo c) :
    info.HostsDistinct ↔ ∀ dest, (info.hostsOf dest).Nodup := by
  constructor
  · intro h dest
    cases dest with
    | alt i => exact h.1 i
    | disabled => exact h.2
  · intro h
    exact ⟨fun i => h (.alt i), h .disabled⟩

/-- There are no alternate destinations beside a disabled destination. -/
def Exclusive (info : FlowInfo c) : Prop :=
  info.hostsOf .disabled = [] ∨ ∀ i, i ≠ 0 → info.hostsOf (.alt i) = []

/-- Neither the hosts nor the text differ. -/
structure SameHosts (info info' : FlowInfo c) : Prop where
  hostsOf : ∀ dest, info'.hostsOf dest = info.hostsOf dest
  configInfo : info'.configInfo = info.configInfo

variable {info info' : FlowInfo c}

/-- The hosts of a destination are in two fields. -/
theorem hosts_of_congr (hhosts : info'.hosts = info.hosts)
    (hdisabled : info'.disabledHosts = info.disabledHosts) (dest : Destination c) :
    info'.hostsOf dest = info.hostsOf dest := by
  cases dest with
  | alt i => exact congrFun hhosts i
  | disabled => exact hdisabled

/-- An option that sets another field. -/
theorem SameHosts.of_eq (hhosts : info'.hosts = info.hosts)
    (hdisabled : info'.disabledHosts = info.disabledHosts)
    (hconfig : info'.configInfo = info.configInfo) : info.SameHosts info' :=
  ⟨hosts_of_congr hhosts hdisabled, hconfig⟩

end FlowInfo

/-! ## One line -/

/-- The loop over the hosts of a line appends them if they are distinct. -/
theorem push_hosts_eq_some {hostnames hosts words result : List String}
    (h : pushHosts hostnames hosts words = some result) :
    words.Nodup ∧ (∀ host ∈ words, host ∉ hostnames) ∧ result = hosts ++ words := by
  induction words generalizing hostnames hosts with
  | nil =>
      cases h
      exact ⟨List.nodup_nil, List.forall_mem_nil _, (List.append_nil _).symm⟩
  | cons host words ih =>
      rw [pushHosts] at h
      split at h
      next => cases h
      next hnew =>
        obtain ⟨hnodup, hfresh, hresult⟩ := ih h
        refine ⟨List.nodup_cons.2 ⟨fun hmem => ?_, hnodup⟩, ?_, ?_⟩
        · exact hfresh host hmem List.mem_cons_self
        · refine List.forall_mem_cons.2 ⟨hnew, fun other hmem => ?_⟩
          intro hother
          exact hfresh other hmem (List.mem_cons_of_mem _ hother)
        · rw [hresult, List.append_assoc, List.singleton_append]

namespace ParserOutside

/-- A header line brings no hosts. -/
theorem parse_header_line_spec (h : o.parseHeaderLine line info = some info') :
    isHeader line ∧ info.SameHosts info' := by
  unfold parseHeaderLine at h
  split at h
  next id group =>
    obtain ⟨id, -, h⟩ := Option.bind_eq_some_iff.1 h
    obtain ⟨group, -, h⟩ := Option.bind_eq_some_iff.1 h
    split at h
    next =>
      cases h
      exact ⟨rfl, FlowInfo.hosts_of_congr rfl rfl, rfl⟩
    next => cases h
  next => cases h

/-- A `type` line brings no hosts. -/
theorem parse_type_line_spec (h : o.parseTypeLine line info = some info') :
    line.head? = some "type" ∧ info.SameHosts info' := by
  unfold parseTypeLine at h
  split at h
  next type =>
    obtain ⟨type, -, h⟩ := Option.bind_eq_some_iff.1 h
    split at h
    next =>
      cases h
      exact ⟨rfl, FlowInfo.hosts_of_congr rfl rfl, rfl⟩
    next => cases h
  next => cases h

/-- A `destination` line adds distinct hosts to the default destination. -/
theorem parse_destination_line_spec (h : parseDestinationLine line info = some info') :
    line.head? = some "destination" ∧ line.tail.Nodup ∧
      info' = info.setHosts 0 (info.hosts 0 ++ line.tail) := by
  unfold parseDestinationLine at h
  split at h
  next host words =>
    obtain ⟨hosts, hhosts, rfl⟩ := Option.map_eq_some_iff.1 h
    obtain ⟨hnodup, -, rfl⟩ := push_hosts_eq_some hhosts
    exact ⟨rfl, hnodup, rfl⟩
  next => cases h

/-- Disabled hosts are distinct, and are only taken without alternate destinations. -/
theorem parse_disabled_destination_line_spec
    (h : parseDisabledDestinationLine line info = some info') :
    line.tail.Nodup ∧ info.hasAltDest = false ∧
      info' = { info with disabledHosts := info.disabledHosts ++ line.tail } := by
  unfold parseDisabledDestinationLine at h
  split at h
  next host words =>
    split at h
    next => cases h
    next halt =>
      obtain ⟨hosts, hhosts, rfl⟩ := Option.map_eq_some_iff.1 h
      obtain ⟨hnodup, -, rfl⟩ := push_hosts_eq_some hhosts
      exact ⟨hnodup, eq_false_of_ne_true halt, rfl⟩
  next => cases h

/-- A line for an alternate destination adds distinct hosts to it, and is only taken without
disabled ones. -/
theorem parse_alt_destination_lines_spec (h : o.parseAltDestinationLines line info = some info') :
    ∃ i, line.head?.bind o.altDest = some i ∧ line.tail.Nodup ∧ info.disabledHosts = [] ∧
      info' = info.setHosts i (info.hosts i ++ line.tail) := by
  unfold parseAltDestinationLines at h
  split at h
  next word host words =>
    obtain ⟨i, hi, h⟩ := Option.bind_eq_some_iff.1 h
    split at h
    next => cases h
    next hdisabled =>
      obtain ⟨hosts, hhosts, h⟩ := Option.bind_eq_some_iff.1 h
      cases h
      obtain ⟨hnodup, -, rfl⟩ := push_hosts_eq_some hhosts
      exact ⟨i, hi, hnodup, not_not.1 hdisabled, rfl⟩
  next => cases h

/-- A function for lines that have no hosts. -/
def KeepsHosts (parse : Line → FlowInfo c → Option (FlowInfo c)) : Prop :=
  ∀ line info info', parse line info = some info' → info.SameHosts info'

/-- A `bandwidth` line brings no hosts. -/
theorem keeps_hosts_bandwidth : KeepsHosts o.parseBandwidthLine := by
  intro line info info' h
  unfold parseBandwidthLine at h
  split at h
  next =>
    obtain ⟨burst, -, h⟩ := Option.bind_eq_some_iff.1 h
    split at h
    next => cases h
    next =>
      obtain ⟨recharge, -, h⟩ := Option.bind_eq_some_iff.1 h
      split at h
      next => cases h
      next =>
        cases h
        exact .of_eq rfl rfl rfl
  next => cases h

/-- A `timeout` line brings no hosts. -/
theorem keeps_hosts_timeout : KeepsHosts o.parseTimeoutLine := by
  intro line info info' h
  unfold parseTimeoutLine at h
  split at h
  next =>
    obtain ⟨timeout, -, rfl⟩ := Option.map_eq_some_iff.1 h
    exact .of_eq rfl rfl rfl
  next => cases h

/-- A `buffer` line brings no hosts. -/
theorem keeps_hosts_buffer : KeepsHosts o.parseBufferLine := by
  intro line info info' h
  unfold parseBufferLine at h
  split at h
  next =>
    obtain ⟨size, -, rfl⟩ := Option.map_eq_some_iff.1 h
    exact .of_eq rfl rfl rfl
  next => cases h

/-- The flags have nothing to do with the hosts. -/
theorem same_hosts_flags (info : FlowInfo c) (mask : Nat) :
    info.SameHosts (info.setFlag mask) ∧ info.SameHosts (info.clearFlag mask) :=
  ⟨.of_eq rfl rfl rfl, .of_eq rfl rfl rfl⟩

/-- An `sf` line brings no hosts. -/
theorem keeps_hosts_sf : KeepsHosts o.parseSfLine := by
  intro line info info' h
  unfold parseSfLine at h
  split at h
  next =>
    cases h
    exact (same_hosts_flags info o.storeAndForward).1
  next => cases h

/-- An `er` line brings no hosts. -/
theorem keeps_hosts_er : KeepsHosts (o.parseErLine kind) := by
  intro line info info' h
  unfold parseErLine at h
  split at h
  next =>
    cases h
    exact ⟨fun _ => rfl, rfl⟩
  next =>
    split at h
    next =>
      have hflags := same_hosts_flags info o.externalRecord
      split_ifs at h <;> cases h
      · exact hflags.1
      · exact hflags.2
      · exact hflags.1
      · exact hflags.2
    next => cases h

/-- A line that gives one word keeps the hosts if the word is for something else. -/
theorem keeps_hosts_word {word : String} {set : FlowInfo c → String → FlowInfo c}
    (hset : ∀ (info : FlowInfo c) value, info.SameHosts (set info value)) :
    KeepsHosts fun line info => parseWordLine word (set info) line := by
  intro line info info' h
  simp only [parseWordLine] at h
  split at h
  next value =>
    split at h
    next =>
      cases h
      exact hset info value
    next => cases h
  next => cases h

/-- Neither does a line that is only allowed in annotated flows. -/
theorem keeps_hosts_if_annotated {parse : Line → FlowInfo c → Option (FlowInfo c)}
    (h : KeepsHosts parse) : KeepsHosts (o.ifAnnotated parse) := by
  intro line info info' hparse
  unfold ifAnnotated at hparse
  split at hparse
  next => exact h line info info' hparse
  next => cases hparse

/-- A line with the name brings no hosts. -/
theorem keeps_hosts_name : KeepsHosts (parseNameLine : Line → FlowInfo c → _) :=
  keeps_hosts_word fun _ _ => .of_eq rfl rfl rfl

/-- A line with the role of the source brings no hosts. -/
theorem keeps_hosts_role : KeepsHosts (parseOverrideSourceRoleInst : Line → FlowInfo c → _) :=
  keeps_hosts_word fun _ _ => .of_eq rfl rfl rfl

/-- A line with a file of annotations brings no hosts. -/
theorem keeps_hosts_file : KeepsHosts (parsePrecomputedAnnotationFile : Line → FlowInfo c → _) :=
  keeps_hosts_word fun _ _ => .of_eq rfl rfl rfl

/-- A line with the channel of the timestamp brings no hosts. -/
theorem keeps_hosts_channel : KeepsHosts (parseTimestampChannel : Line → FlowInfo c → _) :=
  keeps_hosts_word fun _ _ => .of_eq rfl rfl rfl

/-- The words of the options that have no hosts. -/
def otherOptions : List String :=
  ["bandwidth", "idle_timeout", "store_and_forward", "external_record", "buffer", "name",
    "override_source_role_inst", "precomputed_annotation_file", "timestamp_channel"]

/-- The options without hosts are told apart from those with hosts by their words. -/
theorem other_options : ∀ word ∈ otherOptions,
    word ≠ "disabled_destination" ∧ isAltDestination word = false := by
  decide +kernel

/-- The word decides, or it is another one. -/
theorem some_of_ite {α : Type} {p : Prop} [Decidable p] {a b : α} {other : Option α}
    (h : (if p then some a else other) = some b) : (p ∧ a = b) ∨ (¬p ∧ other = some b) := by
  split at h
  next hp => exact .inl ⟨hp, Option.some.inj h⟩
  next hp => exact .inr ⟨hp, h⟩

/-- An option is for one of the lists of hosts, or for none. -/
theorem option_parser_cases {word : String} {parse : Line → FlowInfo c → Option (FlowInfo c)}
    (h : o.optionParser kind word = some parse) :
    (word = "disabled_destination" ∧ parse = parseDisabledDestinationLine) ∨
      (word ≠ "disabled_destination" ∧ parse = o.parseAltDestinationLines) ∨
      (word ≠ "disabled_destination" ∧ isAltDestination word = false ∧ KeepsHosts parse) := by
  have hother (w : String) (hw : word = w) (hmem : w ∈ otherOptions) (hkeeps : KeepsHosts parse) :
      word ≠ "disabled_destination" ∧ isAltDestination word = false ∧ KeepsHosts parse := by
    obtain ⟨hne, halt⟩ := other_options w hmem
    exact hw ▸ ⟨hne, halt, hkeeps⟩
  rw [optionParser] at h
  rcases some_of_ite h with ⟨hw, rfl⟩ | ⟨-, h⟩
  · exact .inr (.inr (hother _ hw (by simp [otherOptions]) keeps_hosts_bandwidth))
  rcases some_of_ite h with ⟨hw, rfl⟩ | ⟨-, h⟩
  · exact .inr (.inr (hother _ hw (by simp [otherOptions]) keeps_hosts_timeout))
  rcases some_of_ite h with ⟨hw, rfl⟩ | ⟨-, h⟩
  · exact .inr (.inr (hother _ hw (by simp [otherOptions]) keeps_hosts_sf))
  rcases some_of_ite h with ⟨hw, rfl⟩ | ⟨-, h⟩
  · exact .inr (.inr (hother _ hw (by simp [otherOptions]) keeps_hosts_er))
  rcases some_of_ite h with ⟨hw, rfl⟩ | ⟨-, h⟩
  · exact .inr (.inr (hother _ hw (by simp [otherOptions]) keeps_hosts_buffer))
  rcases some_of_ite h with ⟨hw, rfl⟩ | ⟨-, h⟩
  · exact .inr (.inr (hother _ hw (by simp [otherOptions]) keeps_hosts_name))
  rcases some_of_ite h with ⟨hdisabled, rfl⟩ | ⟨hdisabled, h⟩
  · exact .inl ⟨hdisabled, rfl⟩
  rcases some_of_ite h with ⟨-, rfl⟩ | ⟨-, h⟩
  · exact .inr (.inl ⟨hdisabled, rfl⟩)
  rcases some_of_ite h with ⟨hw, rfl⟩ | ⟨-, h⟩
  · exact .inr (.inr (hother _ hw (by simp [otherOptions]) keeps_hosts_role))
  rcases some_of_ite h with ⟨hw, rfl⟩ | ⟨-, h⟩
  · exact .inr (.inr (hother _ hw (by simp [otherOptions])
      (keeps_hosts_if_annotated keeps_hosts_file)))
  rcases some_of_ite h with ⟨hw, rfl⟩ | ⟨-, h⟩
  · exact .inr (.inr (hother _ hw (by simp [otherOptions])
      (keeps_hosts_if_annotated keeps_hosts_channel)))
  cases h

/-- The word of an alternate destination never names the default one. -/
theorem alt_dest_ne_zero {word : String} {i : Fin (c.numAltDestinations + 1)}
    (h : o.altDest word = some i) : isAltDestination word ∧ i ≠ 0 := by
  unfold altDest at h
  split at h
  next halt =>
    obtain ⟨n, -, h⟩ := Option.bind_eq_some_iff.1 h
    split at h
    next hn =>
      cases h
      exact ⟨halt, fun heq => hn.1 (congrArg Fin.val heq)⟩
    next => cases h
  next => cases h

/-- No option is for the default destination. -/
theorem line_destination_ne_zero : o.lineDestination line ≠ some (.alt 0) := by
  intro h
  obtain ⟨word, -, h⟩ := Option.bind_eq_some_iff.1 h
  split at h
  next => cases h
  next =>
    obtain ⟨i, hi, heq⟩ := Option.map_eq_some_iff.1 h
    injection heq with heq
    exact (alt_dest_ne_zero hi).2 heq

/-- The default destination is not for options. -/
theorem hosts_for_zero (line : Line) : o.hostsFor (.alt 0) line = [] :=
  if_neg line_destination_ne_zero

/-- What an option adds to the hosts of a flow. -/
structure AddsHosts (o : ParserOutside c) (line : Line) (info info' : FlowInfo c) : Prop where
  hostsOf : ∀ dest, info'.hostsOf dest = info.hostsOf dest ++ o.hostsFor dest line
  configInfo : info'.configInfo = info.configInfo
  nodup : ∀ dest, (o.hostsFor dest line).Nodup
  exclusive : info.Exclusive → info'.Exclusive

/-- A line adds the hosts that it has to one destination. -/
theorem adds_hosts_of_destination (dest : Destination c)
    (hdest : o.lineDestination line = some dest) (hnodup : line.tail.Nodup)
    (hhosts : info'.hostsOf dest = info.hostsOf dest ++ line.tail)
    (hothers : ∀ other, other ≠ dest → info'.hostsOf other = info.hostsOf other)
    (htext : info'.configInfo = info.configInfo) (hexclusive : info'.Exclusive) :
    AddsHosts o line info info' where
  hostsOf other := by
    rw [hostsFor, hdest]
    by_cases heq : dest = other
    · rw [← heq, if_pos rfl, hhosts]
    · rw [if_neg fun h => heq (Option.some.inj h), List.append_nil, hothers other (Ne.symm heq)]
  configInfo := htext
  nodup other := by
    rw [hostsFor]
    split
    · exact hnodup
    · exact List.nodup_nil
  exclusive _ := hexclusive

/-- A line adds no hosts. -/
theorem adds_hosts_of_same (hdest : o.lineDestination line = none) (h : info.SameHosts info') :
    AddsHosts o line info info' where
  hostsOf dest := by rw [hostsFor, hdest, if_neg (by simp), List.append_nil, h.hostsOf]
  configInfo := h.configInfo
  nodup dest := by
    rw [hostsFor, hdest, if_neg (by simp)]
    exact List.nodup_nil
  exclusive hexclusive := by
    rcases hexclusive with hdisabled | halt
    · exact .inl ((h.hostsOf _).trans hdisabled)
    · exact .inr fun i hi => (h.hostsOf _).trans (halt i hi)

/-- A flow without alternate destinations has no hosts for one. -/
theorem has_alt_dest_eq_false (h : info.hasAltDest = false) {i : Fin (c.numAltDestinations + 1)}
    (hi : i ≠ 0) : info.hosts i = [] := by
  have hall := List.any_eq_false.1 h i (List.mem_finRange i)
  simpa [hi] using hall

/-- What an option does to the hosts. -/
theorem parse_option_spec (h : o.parseOption kind info line = some info') :
    AddsHosts o line info info' := by
  obtain ⟨parse, hparser, h⟩ := Option.bind_eq_some_iff.1 h
  obtain ⟨word, hword, hparser⟩ := Option.bind_eq_some_iff.1 hparser
  rcases option_parser_cases hparser with ⟨hdisabled, rfl⟩ | ⟨hother, rfl⟩ | ⟨hother, halt, hkeeps⟩
  · obtain ⟨hnodup, hnone, rfl⟩ := parse_disabled_destination_line_spec h
    refine adds_hosts_of_destination .disabled ?_ hnodup rfl ?_ rfl
      (.inr fun i hi => has_alt_dest_eq_false hnone hi)
    · rw [lineDestination, hword, Option.bind_some, if_pos hdisabled]
    · intro other hne
      match other with
      | .alt i => rfl
      | .disabled => exact absurd rfl hne
  · obtain ⟨i, hi, hnodup, hnone, rfl⟩ := parse_alt_destination_lines_spec h
    rw [hword, Option.bind_some] at hi
    refine adds_hosts_of_destination (.alt i) ?_ hnodup (if_pos rfl) ?_ rfl (.inl hnone)
    · rw [lineDestination, hword, Option.bind_some, if_neg hother, hi]
      rfl
    · intro other hne
      match other with
      | .alt j => exact if_neg fun heq => hne (congrArg Destination.alt heq)
      | .disabled => rfl
  · refine adds_hosts_of_same ?_ (hkeeps _ _ _ h)
    rw [lineDestination, hword, Option.bind_some, if_neg hother, altDest, halt]
    rfl

/-- What the options of a flow do to the hosts. -/
theorem fold_options_spec {options : List Line}
    (h : options.foldlM (o.parseOption kind) info = some info') :
    (∀ dest, info'.hostsOf dest = info.hostsOf dest ++ options.flatMap (o.hostsFor dest)) ∧
      info'.configInfo = info.configInfo ∧
      (∀ line ∈ options, ∀ dest, (o.hostsFor dest line).Nodup) ∧
      (info.Exclusive → info'.Exclusive) := by
  induction options generalizing info with
  | nil =>
      cases h
      exact ⟨fun _ => (List.append_nil _).symm, rfl, List.forall_mem_nil _, id⟩
  | cons line options ih =>
      obtain ⟨next, hnext, hrest⟩ := Option.bind_eq_some_iff.1 h
      have hline := parse_option_spec hnext
      obtain ⟨hhosts, htext, hnodup, hexclusive⟩ := ih hrest
      refine ⟨fun dest => ?_, htext.trans hline.configInfo,
        List.forall_mem_cons.2 ⟨hline.nodup, hnodup⟩, fun h => hexclusive (hline.exclusive h)⟩
      rw [hhosts, hline.hostsOf, List.append_assoc, List.flatMap_cons]

/-! ## One flow -/

variable {lines rest : List Line}

/-- The loop over the options takes the lines up to the first that is not an option. -/
theorem parse_options_spec (h : o.parseOptions kind info lines = some (info', rest)) :
    ∃ options, lines = options ++ rest ∧ (∀ line ∈ options, o.isOption kind line) ∧
      (∀ line ∈ rest.head?, ¬o.isOption kind line) ∧
      options.foldlM (o.parseOption kind) info = some info' := by
  induction lines generalizing info with
  | nil =>
      cases h
      exact ⟨[], rfl, List.forall_mem_nil _, (fun _ hline => by cases hline), rfl⟩
  | cons line lines ih =>
      match line with
      | [] => cases h
      | word :: words =>
        rw [parseOptions] at h
        split at h
        next hparser =>
          cases h
          refine ⟨[], rfl, List.forall_mem_nil _, fun line hline => ?_, rfl⟩
          cases hline
          rw [isOption, List.head?_cons, Option.bind_some, hparser]
          exact Bool.false_ne_true
        next parse hparser =>
          obtain ⟨next, hnext, hrest⟩ := Option.bind_eq_some_iff.1 h
          obtain ⟨options, hlines, hall, hhead, hfold⟩ := ih hrest
          refine ⟨(word :: words) :: options, congrArg _ hlines,
            List.forall_mem_cons.2 ⟨?_, hall⟩, hhead, ?_⟩
          · rw [isOption, List.head?_cons, Option.bind_some, hparser]
            rfl
          · rw [List.foldlM_cons, parseOption, List.head?_cons, Option.bind_some, hparser,
              Option.bind_some, hnext]
            exact hfold

/-- The text of the lines of a configuration is put together line by line. -/
theorem config_text_cons (line : Line) (lines : List Line) :
    configText (line :: lines) = " ".intercalate line ++ "\n" ++ configText lines := by
  rw [configText, List.map_cons, String.join_cons, configText]

/-- The loop over the other lines takes them up to the next header. -/
theorem parse_config_info_spec (h : parseConfigInfo info lines = some (info', rest)) :
    ∃ config, lines = config ++ rest ∧ (∀ line ∈ config, ¬isHeader line) ∧
      (∀ line ∈ rest.head?, isHeader line) ∧
      info' = { info with configInfo := info.configInfo ++ configText config } := by
  induction lines generalizing info with
  | nil =>
      cases h
      refine ⟨[], rfl, List.forall_mem_nil _, (fun _ hline => by cases hline), ?_⟩
      rw [configText, List.map_nil, String.join_nil, String.append_empty]
  | cons line lines ih =>
      match line with
      | [] => cases h
      | word :: words =>
        rw [parseConfigInfo] at h
        split at h
        next hword =>
          cases h
          refine ⟨[], rfl, List.forall_mem_nil _, fun line hline => ?_, ?_⟩
          · cases hline
            rw [isHeader, List.head?_cons, hword]
            exact decide_eq_true rfl
          · rw [configText, List.map_nil, String.join_nil, String.append_empty]
        next hword =>
          obtain ⟨config, hlines, hall, hhead, hinfo⟩ := ih h
          refine ⟨(word :: words) :: config, congrArg _ hlines,
            List.forall_mem_cons.2 ⟨?_, hall⟩, hhead, ?_⟩
          · rw [isHeader, List.head?_cons]
            simpa using hword
          · rw [hinfo, config_text_cons, ← String.append_assoc, ← String.append_assoc]
            rfl

/-- A header is not an option. -/
theorem not_option_of_header (h : isHeader line) : ¬o.isOption kind line := by
  have hhead : line.head? = some "flow" := of_decide_eq_true h
  have halt : isAltDestination "flow" = false := by decide +kernel
  rw [isOption, hhead, Option.bind_some, optionParser]
  simp [halt]

/-- Multiplexing leaves the hosts alone. -/
theorem same_hosts_mux (info : FlowInfo c) : info.SameHosts (o.addMuxFlag muxedGroups info) := by
  unfold addMuxFlag
  split
  · exact (same_hosts_flags info o.muxStrings).1
  · exact ⟨fun _ => rfl, rfl⟩

/-- A round of `parse_file` takes the lines up to the next header, as those of a flow. -/
theorem parse_flow_spec (hstart : o.StartsEmpty)
    (h : o.parseFlow kind muxedGroups lines = some (info, rest)) :
    ∃ flow : FlowLines, lines = flow.lines ++ rest ∧ o.Consumes kind muxedGroups flow info ∧
      ∀ line ∈ rest.head?, isHeader line := by
  unfold parseFlow at h
  split at h
  next header type dest lines =>
    obtain ⟨info₁, hheader, h⟩ := Option.bind_eq_some_iff.1 h
    obtain ⟨info₂, htype, h⟩ := Option.bind_eq_some_iff.1 h
    obtain ⟨info₃, hdest, h⟩ := Option.bind_eq_some_iff.1 h
    obtain ⟨⟨info₄, lines'⟩, hoptions, htail⟩ := Option.bind_eq_some_iff.1 h
    obtain ⟨config, rfl, hconfig, hhead, rfl⟩ := parse_config_info_spec htail
    obtain ⟨options, rfl, hall, hfirst, hfold⟩ := parse_options_spec hoptions
    have hsame₁ := (parse_header_line_spec hheader).2
    have hsame₂ := (parse_type_line_spec htype).2
    obtain ⟨hdestWord, -, hinfo₃⟩ := parse_destination_line_spec hdest
    have htext : (o.addMuxFlag muxedGroups info₄).configInfo = "" := by
      rw [(same_hosts_mux info₄).configInfo, (fold_options_spec hfold).2.1, hinfo₃]
      exact hsame₂.configInfo.trans (hsame₁.configInfo.trans hstart.configInfo)
    refine ⟨⟨header, type, dest, options, config⟩, ?_, ?_, hhead⟩
    · simp [FlowLines.lines]
    · exact
        { header := (parse_header_line_spec hheader).1
          type := (parse_type_line_spec htype).1
          destination := hdestWord
          options := hall
          configStart := by
            intro line hline
            refine hfirst line ?_
            cases config with
            | nil => cases hline
            | cons first config => exact hline
          config := hconfig
          parsed := by
            refine ⟨info₁, info₂, info₃, info₄, hheader, htype, hdest, hfold, ?_⟩
            rw [htext, String.empty_append] }
  next => cases h

/-- Only the hosts of one destination are set. -/
theorem hosts_of_set_hosts (info : FlowInfo c) (i : Fin (c.numAltDestinations + 1))
    (hosts : List String) (dest : Destination c) :
    (info.setHosts i hosts).hostsOf dest = if dest = .alt i then hosts else info.hostsOf dest := by
  cases dest with
  | alt j =>
      by_cases heq : j = i
      · rw [if_pos (congrArg _ heq)]
        exact if_pos heq
      · rw [if_neg fun h => heq (Destination.alt.inj h)]
        exact if_neg heq
  | disabled =>
      rw [if_neg fun h => by cases h]
      rfl

/-- The last step of a round leaves the hosts alone. -/
theorem hosts_of_last (info : FlowInfo c) (text : String) (dest : Destination c) :
    FlowInfo.hostsOf { o.addMuxFlag muxedGroups info with configInfo := text } dest =
      info.hostsOf dest := by
  rw [← (same_hosts_mux info : info.SameHosts (o.addMuxFlag muxedGroups info)).hostsOf]
  cases dest <;> rfl

/-- The hosts of a flow. -/
theorem Consumes.hostsOf (hstart : o.StartsEmpty) {flow : FlowLines}
    (h : o.Consumes kind muxedGroups flow info) (dest : Destination c) :
    info.hostsOf dest = (if dest = .alt 0 then flow.destination.tail else []) ++
      flow.options.flatMap (o.hostsFor dest) := by
  obtain ⟨info₁, info₂, info₃, info₄, hheader, htype, hdest, hfold, rfl⟩ := h.parsed
  have hempty (dest : Destination c) : info₂.hostsOf dest = [] := by
    rw [(parse_type_line_spec htype).2.hostsOf, (parse_header_line_spec hheader).2.hostsOf,
      hstart.hosts]
  have hzero : info₂.hosts 0 = [] := hempty (.alt 0)
  obtain ⟨-, -, rfl⟩ := parse_destination_line_spec hdest
  rw [hosts_of_last, (fold_options_spec hfold).1 dest, hosts_of_set_hosts, hempty, hzero,
    List.nil_append]

/-- The hosts of a flow are distinct if no two of its options share one. -/
theorem Consumes.hosts_distinct_iff (hstart : o.StartsEmpty) {flow : FlowLines}
    (h : o.Consumes kind muxedGroups flow info) :
    info.HostsDistinct ↔ o.NoHostRepeated flow.options := by
  obtain ⟨info₁, info₂, info₃, info₄, hheader, htype, hdest, hfold, -⟩ := h.parsed
  obtain ⟨-, hnodup, -⟩ := parse_destination_line_spec hdest
  obtain ⟨-, -, hlines, -⟩ := fold_options_spec hfold
  rw [FlowInfo.hosts_distinct_iff]
  refine forall_congr' fun dest => ?_
  rw [h.hostsOf hstart]
  by_cases hzero : dest = .alt 0
  · -- the options have nothing for the default destination
    subst hzero
    have hnone : flow.options.flatMap (o.hostsFor (.alt 0)) = [] :=
      List.flatMap_eq_nil_iff.2 fun line _ => hosts_for_zero line
    rw [if_pos rfl, hnone, List.append_nil]
    refine iff_of_true hnodup (List.pairwise_of_forall fun line later => ?_)
    rw [hosts_for_zero]
    exact List.disjoint_nil_left _
  · rw [if_neg hzero, List.nil_append, List.nodup_flatMap]
    exact ⟨fun hboth => hboth.2, fun hpair => ⟨fun line hline => hlines line hline dest, hpair⟩⟩

/-- There are never alternate destinations beside a disabled one. -/
theorem Consumes.exclusive (hstart : o.StartsEmpty) {flow : FlowLines}
    (h : o.Consumes kind muxedGroups flow info) : info.Exclusive := by
  obtain ⟨info₁, info₂, info₃, info₄, hheader, htype, hdest, hfold, rfl⟩ := h.parsed
  have hdisabled : info₃.hostsOf .disabled = [] := by
    obtain ⟨-, -, rfl⟩ := parse_destination_line_spec hdest
    rw [hosts_of_set_hosts, if_neg (fun h => by cases h), (parse_type_line_spec htype).2.hostsOf,
      (parse_header_line_spec hheader).2.hostsOf, hstart.hosts]
  have hexclusive := (fold_options_spec hfold).2.2.2 (.inl hdisabled)
  unfold FlowInfo.Exclusive at hexclusive ⊢
  simpa only [hosts_of_last] using hexclusive

/-! ## All flows -/

/-- The lines of a flow up to the next one. -/
theorem Consumes.option_lines {flow : FlowLines} (h : o.Consumes kind muxedGroups flow info)
    (hrest : ∀ line ∈ rest.head?, isHeader line) :
    o.optionLines kind (flow.lines ++ rest) = flow.options := by
  have hstop : ∀ line ∈ (flow.config ++ rest).head?, ¬o.isOption kind line := by
    intro line hline
    cases hconfig : flow.config with
    | nil =>
        rw [hconfig, List.nil_append] at hline
        exact not_option_of_header (hrest line hline)
    | cons first config =>
        refine h.configStart line ?_
        rw [hconfig] at hline ⊢
        exact hline
  have htake : (flow.config ++ rest).takeWhile (o.isOption kind) = [] := by
    cases htail : flow.config ++ rest with
    | nil => rfl
    | cons first tail =>
        rw [htail] at hstop
        rw [List.takeWhile_cons_of_neg (hstop first rfl)]
  rw [FlowLines.lines, List.cons_append, List.cons_append, List.cons_append, optionLines,
    if_pos h.header, List.append_assoc, List.takeWhile_append_of_pos h.options, htake,
    List.append_nil]

/-- A line that is no header has no options. -/
theorem option_lines_of_not_header (h : ¬isHeader line) :
    o.optionLines kind (line :: lines) = [] := by
  match lines with
  | [] => rfl
  | [_] => rfl
  | _ :: _ :: lines => exact if_neg h

variable {P : List Line → Prop}

/-- Lines that are not headers start no flow. -/
theorem forall_tails_of_not_header (hnil : P []) {others : List Line}
    (h : ∀ line ∈ others, ¬isHeader line) :
    (∀ tail ∈ (others ++ rest).tails, P (o.optionLines kind tail)) ↔
      ∀ tail ∈ rest.tails, P (o.optionLines kind tail) := by
  induction others with
  | nil => exact Iff.rfl
  | cons line others ih =>
      obtain ⟨hline, hothers⟩ := List.forall_mem_cons.1 h
      rw [List.cons_append, List.tails_cons, List.forall_mem_cons, ih hothers,
        option_lines_of_not_header hline]
      exact and_iff_right hnil

/-- The lines of a flow after its header are no headers. -/
theorem Consumes.not_header {flow : FlowLines} (h : o.Consumes kind muxedGroups flow info) :
    ∀ line ∈ flow.type :: flow.destination :: (flow.options ++ flow.config), ¬isHeader line := by
  refine List.forall_mem_cons.2 ⟨?_, List.forall_mem_cons.2 ⟨?_, fun line hline => ?_⟩⟩
  · rw [isHeader, h.type]
    decide
  · rw [isHeader, h.destination]
    decide
  · rcases List.mem_append.1 hline with hoption | hconfig
    · exact fun hheader => not_option_of_header hheader (h.options line hoption)
    · exact h.config line hconfig

/-- The flows are found again from the lines. -/
theorem forall_tails_iff (hnil : P []) {flows : List FlowLines} {infos : List (FlowInfo c)}
    (h : List.Forall₂ (o.Consumes kind muxedGroups) flows infos) :
    (∀ tail ∈ (flows.flatMap FlowLines.lines).tails, P (o.optionLines kind tail)) ↔
      ∀ flow ∈ flows, P flow.options := by
  induction h with
  | nil => simpa [optionLines] using hnil
  | @cons flow info flows infos hflow hflows ih =>
      have hhead : ∀ line ∈ (flows.flatMap FlowLines.lines).head?, isHeader line := by
        intro line hline
        cases hflows with
        | nil => cases hline
        | cons hnext _ =>
            cases hline
            exact hnext.header
      have hfirst := hflow.option_lines hhead
      rw [FlowLines.lines, List.cons_append] at hfirst
      rw [List.flatMap_cons, List.forall_mem_cons, ← ih, FlowLines.lines, List.cons_append,
        List.tails_cons, List.forall_mem_cons, hfirst,
        forall_tails_of_not_header hnil hflow.not_header]

/-- The flows have the headers of the configuration, in order. -/
theorem Consumed.headers {flows : List FlowLines} {infos : List (FlowInfo c)}
    (h : List.Forall₂ (o.Consumes kind muxedGroups) flows infos) :
    flows.map FlowLines.header = (flows.flatMap FlowLines.lines).filter isHeader := by
  induction h with
  | nil => rfl
  | @cons flow info flows infos hflow hflows ih =>
      have hothers := List.filter_eq_nil_iff.2 hflow.not_header
      rw [List.map_cons, ih, List.flatMap_cons, List.filter_append, FlowLines.lines,
        List.filter_cons_of_pos hflow.header, hothers]
      rfl

/-- Every line of a configuration that is accepted is consumed once. -/
theorem consumed_of_parse_file (hstart : o.StartsEmpty) {infos : List (FlowInfo c)}
    (h : o.parseFile kind muxedGroups lines = some infos) :
    ∃ flows : List FlowLines, lines = flows.flatMap FlowLines.lines ∧
      List.Forall₂ (o.Consumes kind muxedGroups) flows infos := by
  fun_induction parseFile o kind muxedGroups lines generalizing infos with
  | case1 =>
      cases h
      exact ⟨[], rfl, .nil⟩
  | case2 => cases h
  | case3 line lines info rest hflow ih =>
      obtain ⟨others, hothers, rfl⟩ := Option.map_eq_some_iff.1 h
      obtain ⟨flow, hlines, hconsumes, -⟩ := parse_flow_spec hstart hflow
      obtain ⟨flows, hrest, hall⟩ := ih hothers
      exact ⟨flow :: flows, by rw [hlines, hrest, List.flatMap_cons], .cons hconsumes hall⟩

end ParserOutside

/-- Of a configuration that is accepted every line is consumed once, as part of the flow of the
header before it, and no flow has alternate destinations beside a disabled one. All lists of hosts
are without duplicates if and only if no two options of a flow give one host for a destination. -/
theorem flows_sound_iff (hstart : o.StartsEmpty) {lines : List Line} {infos : List (FlowInfo c)}
    (h : o.parseFile kind muxedGroups lines = some infos) :
    (o.Consumed kind muxedGroups lines infos ∧
        ∀ info ∈ infos, info.HostsDistinct ∧ info.Exclusive) ↔
      ∀ tail ∈ lines.tails, o.NoHostRepeated (o.optionLines kind tail) := by
  obtain ⟨flows, rfl, hall⟩ := ParserOutside.consumed_of_parse_file hstart h
  rw [ParserOutside.forall_tails_iff (fun _ => List.Pairwise.nil) hall]
  have hconsumed : o.Consumed kind muxedGroups (flows.flatMap FlowLines.lines) infos :=
    ⟨flows, rfl, ParserOutside.Consumed.headers hall, hall⟩
  rw [and_iff_right hconsumed]
  clear h hconsumed
  induction hall with
  | nil => exact iff_of_true (List.forall_mem_nil _) (List.forall_mem_nil _)
  | cons hflow hflows ih =>
      rw [List.forall_mem_cons, List.forall_mem_cons, hflow.hosts_distinct_iff hstart,
        and_iff_left (hflow.exclusive hstart)]
      exact and_congr_right' ih

/-! ## Two configurations -/

namespace Sample

/-- The number that a word of digits is. -/
def decimal (word : String) : Option Nat :=
  if word ≠ "" ∧ word.toList.all Char.isDigit then
    some (word.toList.foldl (fun n digit => 10 * n + (digit.toNat - '0'.toNat)) 0)
  else none

/-- Numbers are decimal, and the idle timeout is a whole number of seconds. -/
def parserOutside : ParserOutside constants where
  constructed :=
    { id := 0, group := 0, name := "", hosts := fun _ => [], disabledHosts := []
      bandwidthBurst := 0, bandwidthRecharge := 0, type := 0, staticFlags := 0, idleTimeout := 0
      bufSize := 0, overrideSourceRoleInst := "", precomputedAnnotationFileName := ""
      timestampChannel := "", configInfo := "" }
  groupSym name := if name = "telem_group_slate" then some 3 else none
  lastGroup := 4
  typeSym name :=
    if name = "telem_dgram" then some 0
    else if name = "telem_annotated_dgram" then some 1
    else none
  lastType := 2
  annotatedDgram := 1
  storeAndForward := 1
  externalRecord := 2
  muxStrings := 4
  stringToUint := decimal
  stringToSizeT := decimal
  stringToNanos word := (decimal word).map fun seconds => 10 ^ 9 * seconds

/-- The sample's flow infos are constructed empty. -/
theorem starts_empty : parserOutside.StartsEmpty where
  hosts dest := by cases dest <;> rfl
  configInfo := rfl

/-- The lines of a flow with two options for its alternate destination. -/
def altLines (first second : String) : List Line :=
  [["flow", "1", "slate"], ["type", "dgram"], ["destination", "ground", "ship"],
    ["alt_destination_1", first], ["name", "video"], ["alt_destination_1", second],
    ["rate", "10", "hz"]]

end Sample

/-- Two options for one destination, with different hosts. -/
theorem sample_flows_sound_iff :
    ∃ infos, Sample.parserOutside.parseFile .control [] (Sample.altLines "ship" "spare") =
        some infos ∧
      infos.map (fun info => (info.hosts 1, info.configInfo)) =
        [(["ship", "spare"], "rate 10 hz\n")] ∧
      ((Sample.parserOutside.Consumed .control [] (Sample.altLines "ship" "spare") infos ∧
          ∀ info ∈ infos, info.HostsDistinct ∧ info.Exclusive) ↔
        ∀ tail ∈ (Sample.altLines "ship" "spare").tails,
          Sample.parserOutside.NoHostRepeated
            (Sample.parserOutside.optionLines .control tail)) := by
  have haccepted : (Sample.parserOutside.parseFile .control []
      (Sample.altLines "ship" "spare")).map
        (fun infos => infos.map fun info => (info.hosts 1, info.configInfo)) =
      some [(["ship", "spare"], "rate 10 hz\n")] := by decide +kernel
  obtain ⟨infos, hparse, hinfos⟩ := Option.map_eq_some_iff.1 haccepted
  exact ⟨infos, hparse, hinfos, flows_sound_iff Sample.starts_empty hparse⟩

/-- The second option for the destination repeats the host of the first. -/
theorem repeated_host_accepted :
    Sample.parserOutside.StartsEmpty ∧
      ∃ infos, Sample.parserOutside.parseFile .control [] (Sample.altLines "ship" "ship") =
          some infos ∧
        infos.map (fun info => info.hosts 1) = [["ship", "ship"]] ∧
        ¬(Sample.parserOutside.Consumed .control [] (Sample.altLines "ship" "ship") infos ∧
          ∀ info ∈ infos, info.HostsDistinct ∧ info.Exclusive) := by
  have haccepted : (Sample.parserOutside.parseFile .control []
      (Sample.altLines "ship" "ship")).map (fun infos => infos.map fun info => info.hosts 1) =
        some [["ship", "ship"]] := by decide +kernel
  obtain ⟨infos, hparse, hinfos⟩ := Option.map_eq_some_iff.1 haccepted
  refine ⟨Sample.starts_empty, infos, hparse, hinfos, fun hsound => ?_⟩
  have hmem : ["ship", "ship"] ∈ infos.map fun info => info.hosts 1 := by
    rw [hinfos]
    exact List.mem_singleton.2 rfl
  obtain ⟨info, hinfo, hhosts⟩ := List.mem_map.1 hmem
  have hnodup := (hsound.2 info hinfo).1.1 1
  rw [hhosts] at hnodup
  exact absurd hnodup (by decide)

end Codon.Telemetry
