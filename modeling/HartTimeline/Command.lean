import HartTimeline.Command.Prepare
import HartTimeline.Log.Filter

/-!
# The command

An invocation reads, then writes the streams, then prints. The outcome of a run is its exit status,
what it prints, the report of a failure, what it tells on the way, and the files it leaves.
-/

namespace HartTimeline

/-! ## What is printed -/

/-- The line on the verdict on a trial run. -/
def Trial.line (t : Trial) : Text :=
  Text.of "verdict: " ++ t.status
    ++ (if t.exceptions.isEmpty then []
      else Text.of " (exceptions: " ++ (Text.of ", ").intercalate t.exceptions ++ [')'])
    ++ ['\n']

/-- The line on the verdict on a debugger transcript. -/
def DebuggerVerdict.line (v : DebuggerVerdict) : Text :=
  Text.of "debugger: " ++ v.status ++ ['\n']

/-- What an invocation prints once everything is written. A JSON summary stands alone. -/
def Invocation.output (inv : Invocation) (p : Prepared) : Text :=
  let summary : Summary := ⟨p.report.tally, p.trial?⟩
  let debugger := (p.debugger?.map DebuggerVerdict.line).getD []
  match inv.summary, inv.format with
  | true, .json => summary.renderJson ++ ['\n']
  | true, .text => summary.render ++ debugger
  | false, _ => (p.trial?.map Trial.line).getD [] ++ debugger

/-! ## Runs of the command -/

/-- What a run of the command leaves. -/
structure CommandOutcome where
  status : Nat
  output : Text
  fault? : Option CommandFault
  events : List LogEvent
  tree : FileTree

/-- A run of the command on a file tree, by a system that may refuse to read files and may break off
the writing. All reading comes before the writing. -/
def Invocation.run (inv : Invocation) (read : FileReader) (refusal : FileTree.Refusal)
    (tree : FileTree) : CommandOutcome :=
  let prepared := inv.prepare read
  match prepared.result with
  | .error fault => ⟨1, [], some fault, prepared.events, tree⟩
  | .ok p =>
    match p.report.timeline.saveUnder refusal p.options.outputDir tree with
    | (tree, .error cause) =>
      ⟨1, [], some (.unwritten p.options.outputDir cause), prepared.events, tree⟩
    | (tree, .ok paths) =>
      ⟨0, inv.output p, none,
        prepared.events ++ [.streamsWritten p.options.outputDir paths.length], tree⟩

/-! ## Asking for help or the version -/

/-- What the version option prints. -/
def versionLine : Text :=
  Text.of "hartlog " ++ programVersion ++ ['\n']

/-- What the help option prints. -/
def helpText : Text :=
  ["Split an interleaved multi-core simulator log into per-hart register-diff timelines",
    "",
    "Usage: hartlog [OPTIONS] <LOG>",
    "",
    "Arguments:",
    "  <LOG>  Captured simulator log to sanitize",
    "",
    "Options:",
    "  -o, --output-dir <DIR>            Directory for sanitized_log.log and "
      ++ "sanitized_log_N.log (default: .)",
    "  -n, --cores <N>                   Number of tracked hardware threads (default: 4)",
    "      --skip-blank                  Ignore whitespace-only lines instead of failing on them",
    "      --config <PATH>               Load sanitizer options from a TOML file (flags "
      ++ "override it)",
    "  -c, --summary                     Print a run summary (line, snapshot and per-core "
      ++ "counts) to stdout",
    "      --format <FORMAT>             Summary format (text or json) [default: text] "
      ++ "[possible values: text, json]",
    "      --success-marker <TEXT>       Also classify the raw log as a trial run that must "
      ++ "print TEXT and no Exception(N) marker",
    "      --debugger-transcript <PATH>  Judge a debugger transcript by its <OK>/<FAILED> markers",
    "      --debug                       Enable debug tracing on stderr",
    "  -h, --help                        Print help",
    "  -V, --version                     Print version"].flatMap fun line => Text.of line ++ ['\n']

/-- What is told about arguments that are no invocation. -/
def UsageFault.message : UsageFault → Text
  | missingArgument => Text.of "the following required arguments were not provided: <LOG>"
  | unknownArgument => Text.of "unexpected argument found"
  | invalidValue => Text.of "an argument has no value or one that is not allowed"
  | unreadableNumber => Text.of "the value of '--cores <N>' is not a number"
  | givenTwice => Text.of "an argument cannot be used multiple times"
  | needlessValue => Text.of "a value was given to an argument that takes none"
  | helpAsked => helpText
  | versionAsked => versionLine

/-- What arguments that are no invocation print on standard output. -/
def UsageFault.output : UsageFault → Text
  | helpAsked => helpText
  | versionAsked => versionLine
  | _ => []

/-- The exit status for arguments that are no invocation. -/
def UsageFault.status : UsageFault → Nat
  | helpAsked | versionAsked => 0
  | _ => 2

/-- The report of arguments that are no invocation. -/
def UsageFault.report (f : UsageFault) : List Text :=
  if f.status = 2 then [Text.of "error: " ++ f.message] else []

/-! ## The command as it is seen from outside -/

/-- What a run of the command shows: its exit status, standard output, the lines on standard error
with the events among them, and the files it leaves. -/
structure CommandResult where
  status : Nat
  output : Text
  complaints : List Text
  events : List Text
  report : List Text
  tree : FileTree

/-- The command with its arguments and the log setting, run on a file tree. The setting is read
before anything else is done, and may end the program. How it is read is a parameter, and so is what
the system refuses. -/
def commandUnder (logs : LogReader) (read : FileReader) (refusal : FileTree.Refusal)
    (args : List Text) (setting : Option Text) (tree : FileTree) : CommandResult :=
  match Invocation.ofArguments args with
  | .error fault =>
    { status := fault.status, output := fault.output, complaints := [], events := [],
      report := fault.report, tree }
  | .ok inv =>
    let reading := logs inv.debug setting
    match reading.shows? with
    | none =>
      { status := LogReading.endedStatus, output := [], complaints := reading.complaints,
        events := [], report := [], tree }
    | some shows =>
      let outcome := inv.run read refusal tree
      { status := outcome.status
        output := outcome.output
        complaints := reading.complaints
        events := LogEvent.linesOf shows outcome.events
        report := (outcome.fault?.map CommandFault.report).getD []
        tree := outcome.tree }

/-- The command with the log filters of the program, by a system that refuses nothing. -/
def command (args : List Text) (setting : Option Text) (tree : FileTree) : CommandResult :=
  commandUnder LogFilter.reader tree.readText .never args setting tree

end HartTimeline
