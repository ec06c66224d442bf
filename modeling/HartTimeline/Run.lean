import HartTimeline.Assembly
import HartTimeline.LogFault
import HartTimeline.Tally
import HartTimeline.Text.Lines
import HartTimeline.Timeline

/-!
# Reading a log

A run takes the lines of a log one at a time. Trace lines are copied, register lines gathered, and
a snapshot that closes is compared with the one before it on the same core. A line that does not
fit is rejected with its number; what the run holds is left as it was, but that the line has been
counted and that a snapshot whose core cannot be told is gone.
-/

namespace HartTimeline

/-- What came of one line. -/
inductive Outcome
  | taken
  | dropped (core : Int)
  | rendered (block : Block)
  | rejected (fault : LogFault)
deriving DecidableEq, Repr

/-- The fault of a rejected line. -/
def Outcome.fault? : Outcome → Option LogFault
  | rejected f => some f
  | _ => none

/-- Where a run stands between two lines. -/
structure Run where
  skipBlank : Bool
  assembly : Assembly
  baselines : Baselines
  timeline : Timeline
  tally : Tally
deriving DecidableEq

namespace Run

/-- A run at the start of a log. -/
def start (cores : Nat) (skipBlank : Bool) : Run where
  skipBlank := skipBlank
  assembly := Assembly.idle
  baselines := Baselines.initial cores
  timeline := Timeline.empty cores
  tally := Tally.initial cores

/-- The number of tracked cores. -/
def cores (r : Run) : Nat :=
  r.baselines.cores

/-- The stream that a core index stands for: none if it is negative, and a fault if it is not
below the number of tracked cores. -/
def streamOf (cores line : Nat) (core : Int) : Except LogFault (Option Nat) :=
  if core < 0 then .ok none
  else if core < cores then .ok (some core.toNat)
  else .error (.coreOutOfRange line core cores)

/-- The core index and the stream of a closed snapshot. -/
def streamOfSnapshot (cores line : Nat) (s : Snapshot) : Except LogFault (Int × Option Nat) :=
  match s.core with
  | .error reason => .error (.attribution line reason)
  | .ok core => (streamOf cores line core).map fun stream => (core, stream)

/-- The run with one more line counted. -/
def countLine (r : Run) : Run :=
  { r with tally := r.tally.countLine }

/-- A trace line with its core index. -/
def takeTrace (r : Run) (line : Nat) (text : Text) (core : Int) : Run × Outcome :=
  match streamOf r.cores line core with
  | .error fault => (r, .rejected fault)
  | .ok stream =>
    ({ r with
        timeline := r.timeline.push (.trace text stream)
        tally := r.tally.countTrace stream }, .taken)

/-- A snapshot that a line has closed. -/
def close (r : Run) (line : Nat) (s : Snapshot) : Run × Outcome :=
  match streamOfSnapshot r.cores line s with
  | .error fault => (r, .rejected fault)
  | .ok (core, none) => ({ r with tally := r.tally.countDropped }, .dropped core)
  | .ok (_, some core) =>
    let block := Block.between core (r.baselines.get? core) s
    ({ r with
        baselines := r.baselines.set core s
        timeline := r.timeline.push (.block block)
        tally := r.tally.countBlock core block.newCount block.changedCount }, .rendered block)

/-- A register line with one register. -/
def takeSingle (r : Run) (line : Nat) (name value : Text) : Run × Outcome :=
  match r.assembly.single name value with
  | (assembly, none) => ({ r with assembly, tally := r.tally.countRegisterLine }, .taken)
  | (assembly, some s) =>
    { r with assembly, tally := r.tally.countRegisterLine : Run }.close line s

/-- A register line with several registers. -/
def takeMulti (r : Run) (registers : List Register) : Run × Outcome :=
  ({ r with
      assembly := r.assembly.multi registers
      tally := r.tally.countRegisterLine }, .taken)

/-- A line of a known kind. -/
def takeLine (r : Run) (line : Nat) (text : Text) : Line → Run × Outcome
  | .trace text core => r.takeTrace line text core
  | .single name value => r.takeSingle line name value
  | .multi registers => r.takeMulti registers
  | .blank => ({ r with tally := r.tally.countBlank }, .taken)
  | .malformed words => (r, .rejected (.format line words text))

/-- The line at a position counted from 0. -/
def step (r : Run) (index : Nat) (text : Text) : Run × Outcome :=
  match Line.ofText r.skipBlank text with
  | .error reason => (r.countLine, .rejected (.traceToken (index + 1) text reason))
  | .ok kind => r.countLine.takeLine (index + 1) text kind

/-- The lines from a position on, up to the first one that is rejected. -/
def steps (r : Run) (index : Nat) : List Text → Except LogFault Run
  | [] => .ok r
  | text :: rest =>
    match r.step index text with
    | (_, .rejected fault) => .error fault
    | (r, _) => steps r (index + 1) rest

end Run

/-- What a run leaves: the sanitized log and the counters. -/
structure Report where
  timeline : Timeline
  tally : Tally
deriving DecidableEq

/-- The end of the input: an open snapshot is discarded. -/
def Run.report (r : Run) : Report where
  timeline := r.timeline
  tally := { r.tally with discardedRegisters := r.assembly.leftover }

/-- A whole log, or the fault of its first line that does not fit. -/
def Report.ofLog (cores : Nat) (skipBlank : Bool) (log : Text) : Except LogFault Report :=
  ((Run.start cores skipBlank).steps 0 (Text.lines log)).map Run.report

end HartTimeline
