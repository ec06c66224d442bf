import HartTimeline.Text.Decimal

/-!
# Hart numbers

The simulator numbers hardware threads from 1 and streams are numbered from 0, so a hart number
names the core one below it. Number 0 and negative numbers give a negative core index, which
stands for no stream at all. The least 64-bit number has no predecessor and names no core.
-/

namespace HartTimeline

/-- Why a numeral names no core. -/
inductive HartNumberFault
  | notNumeric
  | noCore
deriving DecidableEq, Repr

/-- The core index that a hart numeral names. -/
def hartCore (numeral : Text) : Except HartNumberFault Int :=
  match Text.signed64? numeral with
  | none => .error .notNumeric
  | some hart => if hart = Text.int64Min then .error .noCore else .ok (hart - 1)

end HartTimeline
