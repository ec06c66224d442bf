import HartTimeline.Run
import HartTimeline.Verdict.Debugger

/-!
# Log events

What the program tells about its work while it runs: every event has a level, the part of the
program it comes from, a message, and fields with values.
-/

namespace HartTimeline

/-- How much an event matters; later levels matter less. -/
inductive LogLevel
  | error
  | warn
  | info
  | debug
  | trace
deriving DecidableEq, Repr

namespace LogLevel

/-- The level's rank: the higher, the less it matters. -/
def rank : LogLevel → Nat
  | error => 1
  | warn => 2
  | info => 3
  | debug => 4
  | trace => 5

/-- The level's name. -/
def name : LogLevel → Text
  | error => Text.of "ERROR"
  | warn => Text.of "WARN"
  | info => Text.of "INFO"
  | debug => Text.of "DEBUG"
  | trace => Text.of "TRACE"

end LogLevel

/-- Something that the program tells. -/
inductive LogEvent
  | trialPassed
  | trialFailed (markerFound : Bool) (exceptions : Nat)
  | debuggerFailed (transcript : Text) (verdict : DebuggerVerdict)
  | readingLog (path : Text) (cores : Nat)
  | atLine (index total : Nat)
  | snapshotDropped (line : Nat) (core : Int)
  | snapshotClosed (line : Nat) (block : Block)
  | trailingDropped (registers : Nat)
  | logDone (tally : Tally)
  | nothingClosed
  | streamsWritten (directory : Text) (files : Nat)
deriving DecidableEq, Repr

namespace LogEvent

/-- The level of an event. -/
def level : LogEvent → LogLevel
  | trialPassed | logDone _ => .info
  | trialFailed .. | debuggerFailed .. | nothingClosed => .warn
  | readingLog .. | trailingDropped _ | streamsWritten .. => .debug
  | atLine .. | snapshotDropped .. | snapshotClosed .. => .trace

/-- The part of the program that an event comes from. -/
def target : LogEvent → Text
  | trialPassed | trialFailed .. | debuggerFailed .. => Text.of "hartlog"
  | _ => Text.of "hartlog::sanitizer"

/-- What an event says. -/
def message : LogEvent → Text
  | trialPassed => Text.of "trial output passed"
  | trialFailed .. => Text.of "trial output failed"
  | debuggerFailed .. => Text.of "debugger run failed"
  | readingLog .. => Text.of "reading log"
  | atLine index total =>
    Text.of "Line " ++ Text.decimal index ++ '/' :: Text.decimal total
  | snapshotDropped .. => Text.of "dropping unattributed snapshot"
  | snapshotClosed .. => Text.of "closed snapshot"
  | trailingDropped _ => Text.of "dropping unclosed trailing snapshot"
  | logDone _ => Text.of "sanitized log"
  | nothingClosed => Text.of "register dumps found but no snapshot ever closed"
  | streamsWritten .. => Text.of "wrote sanitized logs"

/-- The fields of an event besides its message, each with its value. -/
def fields : LogEvent → List (Text × Text)
  | trialFailed found exceptions =>
    [(Text.of "marker_found", if found then Text.of "true" else Text.of "false"),
      (Text.of "exceptions", Text.decimal exceptions)]
  | debuggerFailed transcript verdict =>
    [(Text.of "transcript", transcript), (Text.of "verdict", verdict.name)]
  | readingLog path cores => [(Text.of "path", path), (Text.of "cores", Text.decimal cores)]
  | snapshotDropped line core =>
    [(Text.of "line", Text.decimal line), (Text.of "core", Text.signedDecimal core)]
  | snapshotClosed line block =>
    [(Text.of "line", Text.decimal line), (Text.of "core", Text.decimal block.core),
      (Text.of "new", Text.decimal block.newCount),
      (Text.of "changed", Text.decimal block.changedCount)]
  | trailingDropped registers => [(Text.of "registers", Text.decimal registers)]
  | logDone tally =>
    [(Text.of "lines", Text.decimal tally.lines),
      (Text.of "snapshots", Text.decimal tally.closedSnapshots),
      (Text.of "dropped", Text.decimal tally.droppedSnapshots)]
  | streamsWritten directory files =>
    [(Text.of "dir", directory), (Text.of "files", Text.decimal files)]
  | trialPassed | atLine .. | nothingClosed => []

/-- Whether an event has a field; its message counts as one. -/
def hasField (e : LogEvent) (name : Text) : Bool :=
  name = Text.of "message" || e.fields.any fun field => field.1 = name

/-- An event as a line of the log. -/
def render (e : LogEvent) : Text :=
  e.level.name ++ ' ' :: e.target ++ Text.of ": " ++ e.message
    ++ e.fields.flatMap fun (name, value) => ' ' :: name ++ '=' :: value

end LogEvent

/-! ## The events of a run -/

/-- What one line's outcome has to tell. -/
def Outcome.events (line : Nat) : Outcome → List LogEvent
  | dropped core => [.snapshotDropped line core]
  | rendered block => [.snapshotClosed line block]
  | _ => []

/-- What the end of a run has to tell. -/
def Run.finishEvents (r : Run) : List LogEvent :=
  (if r.assembly.leftover = 0 then [] else [.trailingDropped r.assembly.leftover])
    ++ .logDone r.tally
    :: if r.tally.closedSnapshots = 0 ∧ r.tally.registerLines ≠ 0 then [.nothingClosed] else []

/-- What a run tells from a position on, given the number of all lines, up to the first line that is
rejected. -/
def Run.eventsFrom (total : Nat) (r : Run) (index : Nat) : List Text → List LogEvent
  | [] => r.finishEvents
  | text :: rest =>
    let (next, outcome) := r.step index text
    .atLine index total :: outcome.events (index + 1)
      ++ if outcome.fault?.isSome then [] else eventsFrom total next (index + 1) rest

/-- What reading a whole log tells. -/
def Run.eventsOfLog (cores : Nat) (skipBlank : Bool) (log : Text) : List LogEvent :=
  let lines := Text.lines log
  (Run.start cores skipBlank).eventsFrom lines.length 0 lines

end HartTimeline
