import HartTimeline.Command.Fault
import HartTimeline.Command.Invocation
import HartTimeline.Log.Event
import HartTimeline.Options
import HartTimeline.Streams
import HartTimeline.Summary
import HartTimeline.Verdict.Debugger

/-!
# What the command does before it writes

Reading comes first: the configuration, the log as a trial output, the debugger transcript, and the
log itself. Only when all of this has succeeded is there anything to write or to print, so a fault
up to here leaves the files alone. How files are read is a parameter.
-/

namespace HartTimeline

/-- How the text of a file is read. -/
abbrev FileReader := Text → Except FileFault Text

/-! ## Options -/

/-- The options that a configuration file gives. -/
def Options.ofFile (read : FileReader) (path : Text) : Except ConfigFault Options :=
  match read path with
  | .error cause => .error (.unreadable path cause)
  | .ok text => (Options.ofToml text).mapError (.refused path)

/-- Options with those replaced that the arguments give. -/
def Options.override (o : Options) (inv : Invocation) : Options where
  cores := inv.cores?.getD o.cores
  skipBlank := o.skipBlank || inv.skipBlank
  outputDir := inv.outputDir?.getD o.outputDir

/-- The options of an invocation: the defaults, then the configuration file, then the arguments. -/
def Invocation.options (inv : Invocation) (read : FileReader) : Except CommandFault Options :=
  let base : Except CommandFault Options := match inv.config? with
    | none => .ok {}
    | some path => (Options.ofFile read path).mapError CommandFault.config
  match base with
  | .error fault => .error fault
  | .ok base => (base.override inv).check.mapError .options

/-! ## Work that tells about itself -/

/-- What a piece of work tells, and its result. -/
structure Told (α : Type) where
  events : List LogEvent
  result : Except CommandFault α

namespace Told

/-- A result with nothing to tell. -/
def ofExcept {α : Type} (result : Except CommandFault α) : Told α := ⟨[], result⟩

/-- Work that goes on with the result of other work, if there is one. -/
def andThen {α β : Type} (x : Told α) (f : α → Told β) : Told β :=
  match x.result with
  | .error fault => ⟨x.events, .error fault⟩
  | .ok a =>
    let y := f a
    ⟨x.events ++ y.events, y.result⟩

instance : Monad Told where
  pure a := ⟨[], .ok a⟩
  bind := andThen

end Told

/-! ## The parts of the work -/

/-- The events of a verdict on a trial run. -/
def Trial.events (t : Trial) : List LogEvent :=
  if t.passed then [.trialPassed] else [.trialFailed t.markerFound t.exceptions.length]

/-- The verdict on a captured output. -/
def Trial.ofFile (read : FileReader) (path marker : Text) : Except FileFault Trial :=
  (read path).map fun output => Trial.ofOutput output marker

/-- The verdict on a debugger transcript. -/
def DebuggerVerdict.ofFile (read : FileReader) (path : Text) : Except FileFault DebuggerVerdict :=
  (read path).map DebuggerVerdict.ofTranscript

/-- The report on a log file. -/
def Report.ofFile (read : FileReader) (cores : Nat) (skipBlank : Bool) (path : Text) :
    Except ReportFault Report :=
  match read path with
  | .error fault => .error (.file fault)
  | .ok log => (Report.ofLog cores skipBlank log).mapError .log

namespace Invocation

/-- The verdict on the log as a trial output, if a success marker is given. -/
def trial (inv : Invocation) (read : FileReader) : Told (Option Trial) :=
  match inv.successMarker? with
  | none => pure none
  | some marker =>
    match Trial.ofFile read inv.log marker with
    | .error cause => .ofExcept (.error (.unreadable inv.log cause))
    | .ok t => ⟨t.events, .ok (some t)⟩

/-- The verdict on the debugger transcript, if one is given. -/
def debugger (inv : Invocation) (read : FileReader) : Told (Option DebuggerVerdict) :=
  match inv.transcript? with
  | none => pure none
  | some path =>
    match DebuggerVerdict.ofFile read path with
    | .error cause => .ofExcept (.error (.unreadable path cause))
    | .ok v => ⟨if v = .passed then [] else [.debuggerFailed path v], .ok (some v)⟩

/-- The report on the log. -/
def report (inv : Invocation) (read : FileReader) (o : Options) : Told Report where
  events := .readingLog inv.log o.cores :: match read inv.log with
    | .error _ => []
    | .ok log => Run.eventsOfLog o.cores o.skipBlank log
  result := (Report.ofFile read o.cores o.skipBlank inv.log).mapError (.unreported inv.log)

end Invocation

/-- All that is known when writing begins. -/
structure Prepared where
  options : Options
  report : Report
  trial? : Option Trial
  debugger? : Option DebuggerVerdict

/-- Everything that an invocation asks for, short of writing. -/
def Invocation.prepare (inv : Invocation) (read : FileReader) : Told Prepared := do
  let options ← .ofExcept (inv.options read)
  let trial? ← inv.trial read
  let debugger? ← inv.debugger read
  let report ← inv.report read options
  pure { options, report, trial?, debugger? }

end HartTimeline
