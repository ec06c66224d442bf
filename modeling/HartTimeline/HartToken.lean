import HartTimeline.HartNumber
import HartTimeline.Text.Blank
import HartTimeline.Text.Quoted

/-!
# Hart tokens of trace lines

The second word of a trace line is `label:number` followed by one separator character, such as
`hart:1,`. Between the first colon and the next one (or the end of the word) stands the segment;
without its last character it is the hart number.
-/

namespace HartTimeline

/-- Why a trace line names no core, with the piece of text at fault. -/
inductive HartTokenFault
  | missingToken
  | missingSegment (token : Text)
  | emptySegment (token : Text)
  | notNumeric (numeral : Text)
  | noCore (numeral : Text)
deriving DecidableEq, Repr

namespace HartTokenFault

/-- The text that the fault is about, if the line has one. -/
def subject? : HartTokenFault → Option Text
  | missingToken => none
  | missingSegment t | emptySegment t | notNumeric t | noCore t => some t

/-- What the fault reports. -/
def message : HartTokenFault → Text
  | missingToken => Text.of "trace line has no second whitespace-delimited token"
  | missingSegment t =>
    Text.of "token " ++ Text.quoted t ++ Text.of " has no ':'-separated hart segment"
  | emptySegment t => Text.of "hart segment of token " ++ Text.quoted t ++ Text.of " is empty"
  | notNumeric t => Text.of "hart id " ++ Text.quoted t ++ Text.of " is not an integer"
  | noCore t => Text.of "hart id " ++ Text.quoted t ++ Text.of " has no core index"

/-- A bad hart number as a fault of the token that holds it. -/
def ofNumber (numeral : Text) : HartNumberFault → HartTokenFault
  | .notNumeric => notNumeric numeral
  | .noCore => noCore numeral

end HartTokenFault

/-- The core index that a hart token names. -/
def tokenCore (token : Text) : Except HartTokenFault Int :=
  match (token.splitOn ':')[1]? with
  | none => .error (.missingSegment token)
  | some [] => .error (.emptySegment token)
  | some segment =>
    (hartCore segment.dropLast).mapError (HartTokenFault.ofNumber segment.dropLast)

/-- The core index that the second word of a trace line names. -/
def traceCore (line : Text) : Except HartTokenFault Int :=
  match (Text.words line)[1]? with
  | none => .error .missingToken
  | some token => tokenCore token

end HartTimeline
