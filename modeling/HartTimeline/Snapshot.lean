import HartTimeline.Assoc
import HartTimeline.HartNumber
import HartTimeline.Line
import HartTimeline.Text.Quoted

/-!
# Snapshots

A snapshot is the state of one hart at one instruction: register names with their values, in the
order in which the names first appeared, each with its last value. The register `mhartid` says
which core the snapshot belongs to.
-/

namespace HartTimeline

/-- The register that holds the hart number. -/
def hartRegister : Text := Text.of "mhartid"

/-- The program counter; seeing it again on a line of its own closes a snapshot. -/
def counterRegister : Text := Text.of "pc"

/-- Registers with their values, in order of first appearance. -/
abbrev Snapshot := Assoc Text Text

/-- Why a snapshot belongs to no core. -/
inductive AttributionFault
  | missingHart
  | notNumeric (value : Text)
  | noCore (value : Text)
deriving DecidableEq, Repr

namespace AttributionFault

/-- The `mhartid` value at fault, if there is one. -/
def value? : AttributionFault → Option Text
  | missingHart => none
  | notNumeric v | noCore v => some v

/-- What the fault reports. -/
def message : AttributionFault → Text
  | missingHart => Text.of "snapshot has no mhartid register"
  | notNumeric v => Text.of "mhartid value " ++ Text.quoted v ++ Text.of " is not an integer"
  | noCore v => Text.of "mhartid value " ++ Text.quoted v ++ Text.of " has no core index"

/-- A bad hart number as a fault of the snapshot that holds it. -/
def ofNumber (value : Text) : HartNumberFault → AttributionFault
  | .notNumeric => notNumeric value
  | .noCore => noCore value

end AttributionFault

/-- The core index of a snapshot. A negative one means that it belongs to no stream. -/
def Snapshot.core (s : Snapshot) : Except AttributionFault Int :=
  match s.get? hartRegister with
  | none => .error .missingHart
  | some value => (hartCore value).mapError (AttributionFault.ofNumber value)

end HartTimeline
