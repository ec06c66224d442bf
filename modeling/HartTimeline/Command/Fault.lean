import HartTimeline.File.Fault
import HartTimeline.Options
import HartTimeline.Run

/-!
# Failures of the command

Why the command fails, as a chain of messages from the outermost to the cause, and the report that
is printed of it.
-/

namespace HartTimeline

/-- The messages of refused options, outermost first. -/
def OptionsFault.chain : OptionsFault → List Text
  | malformed => [malformed.message, Text.of "not a configuration document"]
  | noCores => [noCores.message]

/-- Why a configuration file gives no options. -/
inductive ConfigFault
  | unreadable (path : Text) (cause : FileFault)
  | refused (path : Text) (cause : OptionsFault)
deriving DecidableEq, Repr

/-- The messages of the fault, outermost first. -/
def ConfigFault.chain : ConfigFault → List Text
  | unreadable path cause => [Text.of "Failed to read " ++ path, cause.message]
  | refused path cause => (Text.of "Invalid configuration in " ++ path) :: cause.chain

/-- Why a log file gives no report, or its streams are not written. -/
inductive ReportFault
  | log (fault : LogFault)
  | file (fault : FileFault)
deriving DecidableEq, Repr

namespace ReportFault

/-- What the fault reports. -/
def message : ReportFault → Text
  | log fault => fault.message
  | file fault => Text.of "IO error: " ++ fault.message

/-- The messages of the fault, outermost first. -/
def chain (f : ReportFault) : List Text :=
  match f with
  | log _ => [f.message]
  | file fault => [f.message, fault.message]

end ReportFault

/-- Why the command fails. -/
inductive CommandFault
  | config (fault : ConfigFault)
  | options (fault : OptionsFault)
  | unreadable (path : Text) (cause : FileFault)
  | unreported (log : Text) (cause : ReportFault)
  | unwritten (directory : Text) (cause : FileFault)
deriving DecidableEq, Repr

namespace CommandFault

/-- The messages of the fault, outermost first. -/
def chain : CommandFault → List Text
  | config fault => fault.chain
  | options fault => fault.chain
  | unreadable path cause => [Text.of "Failed to read " ++ path, cause.message]
  | unreported log cause => (Text.of "Failed to sanitize " ++ log) :: cause.chain
  | unwritten directory cause =>
    (Text.of "Failed to write sanitized logs to " ++ directory) :: (ReportFault.file cause).chain

/-- The causes of an error: a single one stands alone, several are numbered from 0. -/
def renderCauses : List Text → List Text
  | [cause] => [Text.of "    " ++ cause]
  | causes => causes.zipIdx.map fun (cause, i) =>
      Text.of "    " ++ Text.decimal i ++ Text.of ": " ++ cause

/-- A chain of messages as the lines of a report. -/
def renderChain : List Text → List Text
  | [] => []
  | [message] => [Text.of "Error: " ++ message]
  | message :: causes =>
    [Text.of "Error: " ++ message, [], Text.of "Caused by:"] ++ renderCauses causes

/-- The lines of the report. -/
def report (f : CommandFault) : List Text :=
  renderChain f.chain

end CommandFault

end HartTimeline
