import HartTimeline.Toml.Document

/-!
# Options

How a log is read and where the sanitized streams go. A configuration file is a TOML document with
at most one entry, `sanitizer`: a table with any of the three options, or an array of them in the
order in which they are declared here. What is not given keeps its default.
-/

namespace HartTimeline

/-- The options of a run. -/
structure Options where
  cores : Nat := 4
  skipBlank : Bool := false
  outputDir : Text := Text.of "."
deriving DecidableEq, Repr

/-- Why options are refused. -/
inductive OptionsFault
  | malformed
  | noCores
deriving DecidableEq, Repr

/-- What the fault reports. -/
def OptionsFault.message : OptionsFault → Text
  | malformed => Text.of "Failed to parse TOML"
  | noCores => Text.of "cores must be >= 1, got 0"

namespace Options

/-- Options must track at least one core. -/
def check (o : Options) : Except OptionsFault Options :=
  if o.cores = 0 then .error .noCores else .ok o

/-! ## Configuration files -/

/-- The options with the number of cores set. -/
def setCores (o : Options) : Toml.Value → Option Options
  | .integer n => if n < 0 then none else some { o with cores := n.toNat }
  | _ => none

/-- The options with the treatment of blank lines set. -/
def setSkipBlank (o : Options) : Toml.Value → Option Options
  | .boolean b => some { o with skipBlank := b }
  | _ => none

/-- The options with the output directory set. -/
def setOutputDir (o : Options) : Toml.Value → Option Options
  | .string s => some { o with outputDir := s }
  | _ => none

/-- The options with one entry of the table applied. -/
def setEntry (o : Options) (entry : Text × Toml.Value) : Option Options :=
  if entry.1 = Text.of "cores" then o.setCores entry.2
  else if entry.1 = Text.of "skip_blank_lines" then o.setSkipBlank entry.2
  else if entry.1 = Text.of "output_dir" then o.setOutputDir entry.2
  else none

/-- The options that an array gives in order of declaration; further items are ignored. -/
def ofItems : List Toml.Value → Option Options
  | [] => some {}
  | [c] => setCores {} c
  | [c, b] => (setCores {} c).bind (setSkipBlank · b)
  | c :: b :: d :: _ => ((setCores {} c).bind (setSkipBlank · b)).bind (setOutputDir · d)

/-- The options that the value of `sanitizer` gives. -/
def ofValue : Toml.Value → Option Options
  | .table _ entries => entries.foldlM setEntry {}
  | .array items => ofItems items
  | _ => none

/-- The options that a document gives. -/
def ofDocument : Toml.Entries → Option Options
  | [] => some {}
  | [(name, v)] => if name = Text.of "sanitizer" then ofValue v else none
  | _ => none

/-- The options that the text of a configuration file gives. -/
def ofToml (t : Text) : Except OptionsFault Options :=
  match (Toml.read t).bind ofDocument with
  | none => .error .malformed
  | some o => o.check

end Options

end HartTimeline
