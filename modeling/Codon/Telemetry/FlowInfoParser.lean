import Codon.Telemetry.Relay

/-!
# Parsing the flows of the telemetry configuration

`parse_file` reads the lines of a configuration, each of which is a list of words. A flow is a
header, its type, its destination, any number of options in any order, and from the first line that
is not an option up to the next header a text that is kept as it is. The two parsers of the source
differ in what they make of `external_record`.

The symbol tables, the flags, the conversions of strings and a flow info that has just been
constructed are not in the source tree. `ParserOutside` holds them. A line that is not accepted
makes `parse_file` fail.
-/

namespace Codon.Telemetry

variable {c : Constants}

/-- A line, as its words. -/
abbrev Line := List String

/-- What else `TelemetryFlowInfo` has. The idle timeout is in nanoseconds. -/
structure FlowInfo (c : Constants) extends TelemetryFlowInfo c where
  type : Nat
  staticFlags : Nat
  idleTimeout : Int
  bufSize : Nat
  overrideSourceRoleInst : String
  precomputedAnnotationFileName : String
  timestampChannel : String
  configInfo : String

/-- The parser that is used: that of the control code, or that of the node with this identity. -/
inductive ParserKind where
  | control
  | runtime (ident : String)
deriving DecidableEq

/-- What the parser uses of code that is not in the source tree. A name that is not in a table and a
string that is not a number have no value. -/
structure ParserOutside (c : Constants) where
  constructed : FlowInfo c
  groupSym : String → Option Nat
  lastGroup : Nat
  typeSym : String → Option Nat
  lastType : Nat
  annotatedDgram : Nat
  storeAndForward : Nat
  externalRecord : Nat
  muxStrings : Nat
  stringToUint : String → Option Nat
  stringToSizeT : String → Option Nat
  stringToNanos : String → Option Int

namespace FlowInfo

/-- `|=` of the static flags. -/
def setFlag (mask : Nat) (info : FlowInfo c) : FlowInfo c :=
  { info with staticFlags := info.staticFlags ||| mask }

/-- `&= ~` of the static flags. -/
def clearFlag (mask : Nat) (info : FlowInfo c) : FlowInfo c :=
  { info with staticFlags := info.staticFlags ^^^ (info.staticFlags &&& mask) }

/-- The hosts of a destination are replaced. -/
def setHosts (i : Fin (c.numAltDestinations + 1)) (hosts : List String) (info : FlowInfo c) :
    FlowInfo c :=
  { info with hosts := fun j => if j = i then hosts else info.hosts j }

/-- The hosts of a destination. -/
def hostsOf (info : FlowInfo c) : Destination c → List String
  | .alt i => info.hosts i
  | .disabled => info.disabledHosts

/-- Adds a line to `config_info`. -/
def addConfigLine (info : FlowInfo c) (line : Line) : FlowInfo c :=
  { info with configInfo := info.configInfo ++ " ".intercalate line ++ "\n" }

end FlowInfo

/-- The loop that appends the hosts of a line. It fails at a host that the line has had before. -/
def pushHosts (hostnames : List String) (hosts : List String) : Line → Option (List String)
  | [] => some hosts
  | host :: words =>
      if host ∈ hostnames then none
      else pushHosts (host :: hostnames) (hosts ++ [host]) words

/-- The word that `alt_destination_N` starts with. -/
def altDestinationStart : String := "alt_destination_"

/-- The test for `alt_destination_N`, whatever `N` is. -/
def isAltDestination (word : String) : Bool := altDestinationStart.toList.isPrefixOf word.toList

namespace ParserOutside

variable (o : ParserOutside c)

/-- `parse_header_line`. -/
def parseHeaderLine (line : Line) (info : FlowInfo c) : Option (FlowInfo c) :=
  match line with
  | ["flow", id, group] => do
      let id ← o.stringToUint id
      let group ← o.groupSym ("telem_group_" ++ group)
      if group < o.lastGroup then some { info with id, group } else none
  | _ => none

/-- `parse_type_line`. -/
def parseTypeLine (line : Line) (info : FlowInfo c) : Option (FlowInfo c) :=
  match line with
  | ["type", type] => do
      let type ← o.typeSym ("telem_" ++ type)
      if type < o.lastType then some { info with type } else none
  | _ => none

/-- `parse_destination_line`. -/
def parseDestinationLine (line : Line) (info : FlowInfo c) : Option (FlowInfo c) :=
  match line with
  | "destination" :: host :: words =>
      (pushHosts [] (info.hosts 0) (host :: words)).map fun hosts => info.setHosts 0 hosts
  | _ => none

/-- `parse_bandwidth_line`. -/
def parseBandwidthLine (line : Line) (info : FlowInfo c) : Option (FlowInfo c) :=
  match line with
  | ["bandwidth", burst, recharge] => do
      let bandwidthBurst ← o.stringToSizeT burst
      if bandwidthBurst = 0 then none
      else
        let bandwidthRecharge ← o.stringToUint recharge
        if bandwidthRecharge = 0 then none
        else some { info with bandwidthBurst, bandwidthRecharge }
  | _ => none

/-- `parse_timeout_line`. -/
def parseTimeoutLine (line : Line) (info : FlowInfo c) : Option (FlowInfo c) :=
  match line with
  | ["idle_timeout", timeout] =>
      (o.stringToNanos timeout).map fun idleTimeout => { info with idleTimeout }
  | _ => none

/-- `parse_sf_line`. -/
def parseSfLine (line : Line) (info : FlowInfo c) : Option (FlowInfo c) :=
  match line with
  | ["store_and_forward", "external"] => some (info.setFlag o.storeAndForward)
  | _ => none

/-- `parse_er_line` of the two parsers. That of the control code accepts every line. -/
def parseErLine (kind : ParserKind) (line : Line) (info : FlowInfo c) : Option (FlowInfo c) :=
  match kind with
  | .control => some info
  | .runtime ident =>
    match line with
    | ["external_record", word] =>
        if word = "all" then some (info.setFlag o.externalRecord)
        else if word = "none" then some (info.clearFlag o.externalRecord)
        else if word = "only_a" ∨ word = "only_b" ∨ word = "only_c" then
          if word = "only_a" ∧ ident = "a" ∨ word = "only_b" ∧ ident = "b" ∨
              word = "only_c" ∧ ident = "c" then
            some (info.setFlag o.externalRecord)
          else some (info.clearFlag o.externalRecord)
        else none
    | _ => none

/-- `parse_buffer_line`. -/
def parseBufferLine (line : Line) (info : FlowInfo c) : Option (FlowInfo c) :=
  match line with
  | ["buffer", size] => (o.stringToSizeT size).map fun bufSize => { info with bufSize }
  | _ => none

/-- What the lines have in common that give one word. -/
def parseWordLine (word : String) (set : String → FlowInfo c) (line : Line) :
    Option (FlowInfo c) :=
  match line with
  | [first, value] => if first = word then some (set value) else none
  | _ => none

/-- `parse_name_line`. -/
def parseNameLine (line : Line) (info : FlowInfo c) : Option (FlowInfo c) :=
  parseWordLine "name" (fun name => { info with name }) line

/-- `parse_disabled_destination_line`. -/
def parseDisabledDestinationLine (line : Line) (info : FlowInfo c) : Option (FlowInfo c) :=
  match line with
  | "disabled_destination" :: host :: words =>
      if info.hasAltDest then none
      else
        (pushHosts [] info.disabledHosts (host :: words)).map fun disabledHosts =>
          { info with disabledHosts }
  | _ => none

/-- The number of an alternate destination, from the word that names it. -/
def altDest (word : String) : Option (Fin (c.numAltDestinations + 1)) :=
  if isAltDestination word then
    (o.stringToSizeT (String.ofList (word.toList.drop altDestinationStart.length))).bind fun n =>
      if h : n ≠ 0 ∧ n ≤ c.numAltDestinations then some ⟨n, Nat.lt_succ_of_le h.2⟩ else none
  else none

/-- `parse_alt_destination_lines`. -/
def parseAltDestinationLines (line : Line) (info : FlowInfo c) : Option (FlowInfo c) :=
  match line with
  | word :: host :: words => do
      let i ← o.altDest word
      if info.disabledHosts ≠ [] then none
      else
        let hosts ← pushHosts [] (info.hosts i) (host :: words)
        some (info.setHosts i hosts)
  | _ => none

/-- `parse_override_source_role_inst`. -/
def parseOverrideSourceRoleInst (line : Line) (info : FlowInfo c) : Option (FlowInfo c) :=
  parseWordLine "override_source_role_inst"
    (fun overrideSourceRoleInst => { info with overrideSourceRoleInst }) line

/-- `parse_precomputed_annotation_file`. -/
def parsePrecomputedAnnotationFile (line : Line) (info : FlowInfo c) : Option (FlowInfo c) :=
  parseWordLine "precomputed_annotation_file"
    (fun precomputedAnnotationFileName => { info with precomputedAnnotationFileName }) line

/-- `parse_timestamp_channel`. -/
def parseTimestampChannel (line : Line) (info : FlowInfo c) : Option (FlowInfo c) :=
  parseWordLine "timestamp_channel" (fun timestampChannel => { info with timestampChannel }) line

/-- A line that only flows of annotated datagrams may have. -/
def ifAnnotated (parse : Line → FlowInfo c → Option (FlowInfo c)) (line : Line)
    (info : FlowInfo c) : Option (FlowInfo c) :=
  if info.type = o.annotatedDgram then parse line info else none

/-- The function for an option, from the first word of the line. -/
def optionParser (kind : ParserKind) (word : String) :
    Option (Line → FlowInfo c → Option (FlowInfo c)) :=
  if word = "bandwidth" then some o.parseBandwidthLine
  else if word = "idle_timeout" then some o.parseTimeoutLine
  else if word = "store_and_forward" then some o.parseSfLine
  else if word = "external_record" then some (o.parseErLine kind)
  else if word = "buffer" then some o.parseBufferLine
  else if word = "name" then some parseNameLine
  else if word = "disabled_destination" then some parseDisabledDestinationLine
  else if isAltDestination word then some o.parseAltDestinationLines
  else if word = "override_source_role_inst" then some parseOverrideSourceRoleInst
  else if word = "precomputed_annotation_file" then
    some (o.ifAnnotated parsePrecomputedAnnotationFile)
  else if word = "timestamp_channel" then some (o.ifAnnotated parseTimestampChannel)
  else none

/-- The loop over the options of a flow: the flow info, and the lines from the first one that is not
an option. -/
def parseOptions (kind : ParserKind) (info : FlowInfo c) : List Line →
    Option (FlowInfo c × List Line)
  | [] => some (info, [])
  | [] :: _ => none
  | (word :: words) :: lines =>
    match o.optionParser kind word with
    | none => some (info, (word :: words) :: lines)
    | some parse =>
        (parse (word :: words) info).bind fun info => parseOptions kind info lines

/-- The loop over the lines that are kept, and the lines from the next header. -/
def parseConfigInfo (info : FlowInfo c) : List Line → Option (FlowInfo c × List Line)
  | [] => some (info, [])
  | [] :: _ => none
  | (word :: words) :: lines =>
      if word = "flow" then some (info, (word :: words) :: lines)
      else parseConfigInfo (info.addConfigLine (word :: words)) lines

/-- The mux flag of the flows of some groups. -/
def addMuxFlag (muxedGroups : List Nat) (info : FlowInfo c) : FlowInfo c :=
  if info.group ∈ muxedGroups then info.setFlag o.muxStrings else info

/-- One round of the outer loop of `parse_file`: a flow, and the lines after it. -/
def parseFlow (kind : ParserKind) (muxedGroups : List Nat) : List Line →
    Option (FlowInfo c × List Line)
  | header :: type :: dest :: lines => do
      let info ← o.parseHeaderLine header o.constructed
      let info ← o.parseTypeLine type info
      let info ← parseDestinationLine dest info
      let (info, lines) ← o.parseOptions kind info lines
      parseConfigInfo (o.addMuxFlag muxedGroups info) lines
  | _ => none

variable {o : ParserOutside c} {kind : ParserKind} {muxedGroups : List Nat}
  {info info' : FlowInfo c} {lines rest : List Line}

/-- Parsing options consumes lines. -/
theorem parse_options_length (h : o.parseOptions kind info lines = some (info', rest)) :
    rest.length ≤ lines.length := by
  induction lines generalizing info with
  | nil =>
      cases h
      exact Nat.le_refl _
  | cons line lines ih =>
      match line with
      | [] => cases h
      | word :: words =>
        rw [parseOptions] at h
        split at h
        next =>
          cases h
          exact Nat.le_refl _
        next =>
          obtain ⟨next, -, hrest⟩ := Option.bind_eq_some_iff.1 h
          exact Nat.le_succ_of_le (ih hrest)

/-- So does parsing a section of the configuration. -/
theorem parse_config_info_length (h : parseConfigInfo info lines = some (info', rest)) :
    rest.length ≤ lines.length := by
  induction lines generalizing info with
  | nil =>
      cases h
      exact Nat.le_refl _
  | cons line lines ih =>
      match line with
      | [] => cases h
      | word :: words =>
        rw [parseConfigInfo] at h
        split at h
        next =>
          cases h
          exact Nat.le_refl _
        next => exact Nat.le_succ_of_le (ih h)

/-- A flow has lines. -/
theorem parse_flow_length (h : o.parseFlow kind muxedGroups lines = some (info', rest)) :
    rest.length < lines.length := by
  unfold parseFlow at h
  split at h
  next header type dest lines =>
    obtain ⟨info₁, -, h⟩ := Option.bind_eq_some_iff.1 h
    obtain ⟨info₂, -, h⟩ := Option.bind_eq_some_iff.1 h
    obtain ⟨info₃, -, h⟩ := Option.bind_eq_some_iff.1 h
    obtain ⟨⟨info₄, lines'⟩, hoptions, h⟩ := Option.bind_eq_some_iff.1 h
    have hoptions := parse_options_length hoptions
    have hconfig := parse_config_info_length h
    simp only [List.length_cons]
    omega
  next => cases h

/-- `parse_file`: the flow infos that it appends. -/
def parseFile (o : ParserOutside c) (kind : ParserKind) (muxedGroups : List Nat) :
    List Line → Option (List (FlowInfo c))
  | [] => some []
  | line :: lines =>
    match _ : o.parseFlow kind muxedGroups (line :: lines) with
    | none => none
    | some (info, rest) => (parseFile o kind muxedGroups rest).map (info :: ·)
termination_by lines => lines.length
decreasing_by exact parse_flow_length ‹_›

end ParserOutside

end Codon.Telemetry
