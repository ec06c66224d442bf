import HartTimeline.Text.Decimal
import HartTimeline.Text.Charset

/-!
# Invocations

The arguments of the command: one log, options with a value, and flags. A value follows its option
as the next argument or is attached to it, with an equals sign after a long name and with or without
one after a short name; short flags may share a dash. No argument may be given twice. Two dashes
alone end the options.
-/

namespace HartTimeline

/-- How a run summary is written. -/
inductive SummaryFormat
  | text
  | json
deriving DecidableEq, Repr

/-- What the command is asked to do. -/
structure Invocation where
  log : Text
  outputDir? : Option Text
  cores? : Option Nat
  skipBlank : Bool
  config? : Option Text
  summary : Bool
  format : SummaryFormat
  successMarker? : Option Text
  transcript? : Option Text
  debug : Bool
deriving DecidableEq, Repr

/-- Why arguments are no invocation. Asking for help or for the version ends the reading too. -/
inductive UsageFault
  | missingArgument
  | unknownArgument
  | invalidValue
  | unreadableNumber
  | givenTwice
  | needlessValue
  | helpAsked
  | versionAsked
deriving DecidableEq, Repr

namespace Invocation

/-- An argument that has a value. -/
inductive Setting
  | log
  | outputDir
  | cores
  | config
  | format
  | successMarker
  | transcript
deriving DecidableEq, Repr

/-- An argument that has none. -/
inductive Flag
  | skipBlank
  | summary
  | debug
  | help
  | version
deriving DecidableEq, Repr

/-- An option by its kind. -/
inductive Opt
  | setting (s : Setting)
  | flag (f : Flag)
deriving DecidableEq, Repr

/-- The option with a long name. -/
def longOpt? (name : Text) : Option Opt :=
  [("output-dir", Opt.setting .outputDir), ("cores", .setting .cores),
    ("skip-blank", .flag .skipBlank), ("config", .setting .config), ("summary", .flag .summary),
    ("format", .setting .format), ("success-marker", .setting .successMarker),
    ("debugger-transcript", .setting .transcript), ("debug", .flag .debug), ("help", .flag .help),
    ("version", .flag .version)].lookup (String.ofList name)

/-- The option with a short name. -/
def shortOpt? : Char → Option Opt
  | 'o' => some (.setting .outputDir)
  | 'n' => some (.setting .cores)
  | 'c' => some (.flag .summary)
  | 'h' => some (.flag .help)
  | 'V' => some (.flag .version)
  | _ => none

/-- What has been given so far. -/
structure Draft where
  log? : Option Text := none
  outputDir? : Option Text := none
  cores? : Option Nat := none
  skipBlank : Bool := false
  config? : Option Text := none
  summary : Bool := false
  format? : Option SummaryFormat := none
  successMarker? : Option Text := none
  transcript? : Option Text := none
  debug : Bool := false
deriving DecidableEq, Repr

namespace Draft

/-- Whether an argument with a value has been given. -/
def has (d : Draft) : Setting → Bool
  | .log => d.log?.isSome
  | .outputDir => d.outputDir?.isSome
  | .cores => d.cores?.isSome
  | .config => d.config?.isSome
  | .format => d.format?.isSome
  | .successMarker => d.successMarker?.isSome
  | .transcript => d.transcript?.isSome

/-- A path must not be empty. -/
def path (v : Text) : Except UsageFault Text :=
  if v.isEmpty then .error .invalidValue else .ok v

/-- A number of cores. -/
def number (v : Text) : Except UsageFault Nat :=
  match Text.unsigned64? v with
  | none => .error .unreadableNumber
  | some n => .ok n

/-- A format by its name. -/
def formatNamed (v : Text) : Except UsageFault SummaryFormat :=
  if v = Text.of "text" then .ok .text
  else if v = Text.of "json" then .ok .json
  else .error .invalidValue

/-- The draft with a value set. -/
def set (d : Draft) (v : Text) : Setting → Except UsageFault Draft
  | .log => (path v).map fun p => { d with log? := some p }
  | .outputDir => (path v).map fun p => { d with outputDir? := some p }
  | .cores => (number v).map fun n => { d with cores? := some n }
  | .config => (path v).map fun p => { d with config? := some p }
  | .format => (formatNamed v).map fun f => { d with format? := some f }
  | .successMarker => .ok { d with successMarker? := some v }
  | .transcript => (path v).map fun p => { d with transcript? := some p }

/-- The draft with an argument given: it needs a value and must be new. -/
def give (d : Draft) (s : Setting) : Option Text → Except UsageFault Draft
  | none => .error .invalidValue
  | some v => if d.has s then .error .givenTwice else d.set v s

/-- The draft with a flag raised. -/
def raise (d : Draft) : Flag → Except UsageFault Draft
  | .skipBlank => if d.skipBlank then .error .givenTwice else .ok { d with skipBlank := true }
  | .summary => if d.summary then .error .givenTwice else .ok { d with summary := true }
  | .debug => if d.debug then .error .givenTwice else .ok { d with debug := true }
  | .help => .error .helpAsked
  | .version => .error .versionAsked

/-- The invocation that a finished draft makes. -/
def finish (d : Draft) : Except UsageFault Invocation :=
  match d.log? with
  | none => .error .missingArgument
  | some log => .ok {
      log
      outputDir? := d.outputDir?
      cores? := d.cores?
      skipBlank := d.skipBlank
      config? := d.config?
      summary := d.summary
      format := d.format?.getD .text
      successMarker? := d.successMarker?
      transcript? := d.transcript?
      debug := d.debug }

end Draft

/-! ## Reading arguments

The value of an argument is judged when the next argument has been recognised, so an unknown
argument is reported before a bad value that stands in front of it. -/

/-- Where the reading stands: the draft, the last argument with a value that is not yet in it, and
whether the log has been named. -/
structure State where
  draft : Draft := {}
  pending? : Option (Setting × Option Text) := none
  logNamed : Bool := false
deriving DecidableEq, Repr

namespace State

/-- The state with the last argument put into the draft. -/
def settle (st : State) : Except UsageFault State :=
  match st.pending? with
  | none => .ok st
  | some (s, v) => (st.draft.give s v).map fun d => { st with draft := d, pending? := none }

/-- The state after an option with a value, which may be still to come. -/
def option (st : State) (s : Setting) (v : Option Text) : Except UsageFault State := do
  let st ← st.settle
  match v with
  | none => .ok { st with pending? := some (s, none) }
  | some v => (st.draft.give s (some v)).map fun d => { st with draft := d }

/-- The state after a flag. -/
def flag (st : State) (f : Flag) : Except UsageFault State := do
  let st ← st.settle
  (st.draft.raise f).map fun d => { st with draft := d }

/-- The state after an argument that belongs to no option. -/
def plain (st : State) (v : Text) : Except UsageFault State :=
  if st.logNamed then .error .unknownArgument
  else st.settle.map fun st => { st with pending? := some (.log, some v), logNamed := true }

/-- The state after a long option. -/
def long (st : State) (body : Text) : Except UsageFault State :=
  let value := match body.dropWhile (· ≠ '=') with
    | [] => none
    | _ :: v => some v
  match longOpt? (body.takeWhile (· ≠ '=')), value with
  | none, _ => .error .unknownArgument
  | some (.setting s), v => st.option s v
  | some (.flag _), some _ => .error .needlessValue
  | some (.flag f), none => st.flag f

/-- The state after short options that share a dash. -/
def short (st : State) : Text → Except UsageFault State
  | [] => .ok st
  | c :: rest =>
    match shortOpt? c, rest with
    | none, _ => .error .unknownArgument
    | some (.flag f), _ => do short (← st.flag f) rest
    | some (.setting s), [] => st.option s none
    | some (.setting s), '=' :: v => st.option s (some v)
    | some (.setting s), v => st.option s (some v)

/-- The state after an argument that is no option: the value that is wanted, or the log. -/
def operand (st : State) (v : Text) : Except UsageFault State :=
  match st.pending? with
  | some (s, none) => .ok { st with pending? := some (s, some v) }
  | _ => st.plain v

/-- The state after all arguments that are left. -/
def readAll (st : State) : List Text → Except UsageFault State
  | [] => st.settle
  | ['-', '-'] :: rest => do (← rest.foldlM plain st).settle
  | ('-' :: '-' :: body) :: rest => do readAll (← st.long body) rest
  | ('-' :: c :: body) :: rest => do readAll (← st.short (c :: body)) rest
  | arg :: rest => do readAll (← st.operand arg) rest

end State

/-- The invocation that arguments make. -/
def ofArguments (args : List Text) : Except UsageFault Invocation := do
  (← State.readAll {} args).draft.finish

end Invocation

end HartTimeline
