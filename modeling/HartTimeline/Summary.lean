import HartTimeline.Json
import HartTimeline.Tally
import HartTimeline.Verdict.Trial

/-!
# Summaries of a run

The counters of a run, with the verdict on the log as a trial output if one was asked for, either
as a table for people or as a JSON document.
-/

namespace HartTimeline

/-- The version that the program states. -/
def programVersion : Text := Text.of "0.1.0"

/-- What a run summary shows. -/
structure Summary where
  tally : Tally
  trial? : Option Trial
deriving DecidableEq

namespace Summary

/-! ## The table -/

/-- A text moved to the right end of a column. -/
def rightAligned (width : Nat) (t : Text) : Text :=
  List.replicate (width - t.length) ' ' ++ t

/-- The five cells of a table row. -/
def row (a b c d e : Text) : Text :=
  rightAligned 6 a ++ [' '] ++ rightAligned 10 b ++ [' '] ++ rightAligned 10 c ++ [' ']
    ++ rightAligned 10 d ++ [' '] ++ rightAligned 10 e ++ ['\n']

/-- A labelled counter. -/
def counterLine (label : String) (n : Nat) : Text :=
  Text.of label ++ Text.decimal n ++ ['\n']

/-- A labelled counter with a part of it that is told apart. -/
def splitCounterLine (label : String) (n part : Nat) (what : String) : Text :=
  Text.of label ++ Text.decimal n
    ++ Text.of " (" ++ Text.decimal part ++ Text.of what ++ Text.of ")\n"

/-- The counters of the whole run; those that are seldom above zero show only then. -/
def renderCounters (t : Tally) : Text :=
  counterLine "lines read:            " t.lines
    ++ splitCounterLine "trace lines:           " t.traceLines t.unattributedTraceLines
      " unattributed"
    ++ counterLine "register lines:        " t.registerLines
    ++ (if t.blankLines = 0 then [] else counterLine "blank lines skipped:   " t.blankLines)
    ++ splitCounterLine "snapshots closed:      " t.closedSnapshots t.droppedSnapshots " dropped"
    ++ (if t.discardedRegisters = 0 then []
      else Text.of "trailing snapshot:     " ++ Text.decimal t.discardedRegisters
        ++ Text.of " registers discarded\n")

/-- The heading of the table of cores. -/
def tableHead : Text :=
  row (Text.of "core") (Text.of "traces") (Text.of "snapshots") (Text.of "new") (Text.of "changed")
    ++ List.replicate 50 '-' ++ ['\n']

/-- The table row of a core. -/
def renderCore (c : CoreTally) : Text :=
  row (Text.decimal c.core) (Text.decimal c.traceLines) (Text.decimal c.snapshots)
    (Text.decimal c.newRegisters) (Text.decimal c.changedRegisters)

/-- The lines on the verdict. -/
def renderTrial (t : Trial) : Text :=
  Text.of "\nverdict:               " ++ t.status ++ ['\n']
    ++ t.exceptions.flatMap fun code => Text.of "  exception " ++ code ++ ['\n']

/-- The summary as a table. -/
def render (s : Summary) : Text :=
  renderCounters s.tally ++ ['\n'] ++ tableHead ++ s.tally.cores.flatMap renderCore
    ++ (s.trial?.map renderTrial).getD []

/-! ## The JSON document -/

/-- The counters of a core. -/
def coreJson (c : CoreTally) : Json :=
  .object [
    (Text.of "core", .number c.core),
    (Text.of "trace_lines", .number c.traceLines),
    (Text.of "snapshots", .number c.snapshots),
    (Text.of "new_registers", .number c.newRegisters),
    (Text.of "changed_registers", .number c.changedRegisters)]

/-- The counters of a run. -/
def tallyJson (t : Tally) : Json :=
  .object [
    (Text.of "lines", .number t.lines),
    (Text.of "trace_lines", .number t.traceLines),
    (Text.of "unattributed_trace_lines", .number t.unattributedTraceLines),
    (Text.of "register_lines", .number t.registerLines),
    (Text.of "blank_lines", .number t.blankLines),
    (Text.of "closed_snapshots", .number t.closedSnapshots),
    (Text.of "dropped_snapshots", .number t.droppedSnapshots),
    (Text.of "discarded_trailing_registers", .number t.discardedRegisters),
    (Text.of "cores", .array (t.cores.map coreJson))]

/-- The verdict on a trial run. -/
def trialJson (t : Trial) : Json :=
  .object [
    (Text.of "passed", .bool t.passed),
    (Text.of "success_marker_found", .bool t.markerFound),
    (Text.of "exceptions", .array (t.exceptions.map .string))]

/-- The summary as a JSON value; without a verdict there is no such field. -/
def json (s : Summary) : Json :=
  .object ([
    (Text.of "format", .string (Text.of "hartlog-json-v1")),
    (Text.of "version", .string programVersion),
    (Text.of "stats", tallyJson s.tally)]
    ++ (s.trial?.map fun t => (Text.of "verdict", trialJson t)).toList)

/-- The summary as a JSON document. -/
def renderJson (s : Summary) : Text :=
  s.json.render

end Summary

end HartTimeline
