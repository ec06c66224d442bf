import HartTimeline.Snapshot
import HartTimeline.Text.Decimal

/-!
# Faults of a log

A log is read up to the first line that does not fit. What is wrong may have begun earlier: a
snapshot is judged when the line comes that closes it.
-/

namespace HartTimeline

/-- Why a line of the log is rejected, with the line's number counted from 1. -/
inductive LogFault
  | format (line words : Nat) (text : Text)
  | attribution (line : Nat) (reason : AttributionFault)
  | traceToken (line : Nat) (text : Text) (reason : HartTokenFault)
  | coreOutOfRange (line : Nat) (core : Int) (cores : Nat)
deriving DecidableEq, Repr

namespace LogFault

/-- The number of the rejected line. -/
def line : LogFault → Nat
  | format l .. | attribution l _ | traceToken l .. | coreOutOfRange l .. => l

/-- What the fault reports. -/
def message : LogFault → Text
  | format l n t =>
    Text.of "line " ++ Text.decimal l ++ Text.of ": expected `key value` pairs, found "
      ++ Text.decimal n ++ Text.of " token(s): " ++ Text.quoted t
  | attribution l r =>
    Text.of "line " ++ Text.decimal l ++ Text.of ": cannot attribute snapshot to a core: "
      ++ r.message
  | traceToken l t r =>
    Text.of "line " ++ Text.decimal l ++ Text.of ": bad hart token in trace line "
      ++ Text.quoted t ++ Text.of ": " ++ r.message
  | coreOutOfRange l c n =>
    Text.of "line " ++ Text.decimal l ++ Text.of ": core index " ++ Text.signedDecimal c
      ++ Text.of " is outside the tracked range 0.." ++ Text.decimal n

end LogFault

end HartTimeline
