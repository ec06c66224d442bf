import HartTimeline.Text.Search

/-!
# Verdicts on debugger transcripts

A debugger script prints `<OK>` when all its checks passed and `<FAILED>` when one did not. A
failure anywhere outweighs any number of passes.
-/

namespace HartTimeline

/-- What a debugger transcript shows. -/
inductive DebuggerVerdict
  | missingOk
  | passed
  | failed
deriving DecidableEq, Repr

namespace DebuggerVerdict

/-- What a script prints when every check passed. -/
def okMarker : Text := Text.of "<OK>"

/-- What a script prints when a check failed. -/
def failedMarker : Text := Text.of "<FAILED>"

/-- What a transcript shows. -/
def ofTranscript (t : Text) : DebuggerVerdict :=
  if Text.occursIn failedMarker t then failed
  else if Text.occursIn okMarker t then passed
  else missingOk

/-- The verdict's name. -/
def name : DebuggerVerdict → Text
  | missingOk => Text.of "MissingOk"
  | passed => Text.of "Passed"
  | failed => Text.of "Failed"

/-- The verdict in words. -/
def status : DebuggerVerdict → Text
  | missingOk => Text.of "FAILED (no <OK> marker)"
  | passed => Text.of "OK"
  | failed => Text.of "FAILED"

end DebuggerVerdict

end HartTimeline
