import HartTimeline.HartToken

/-!
# Lines of a simulator log

A line that starts with `riscv` is an instruction trace. Every other line is a register line: an
even number of words, read as name and value in turn. One pair alone is told apart, because only
such a line can close a snapshot.
-/

namespace HartTimeline

/-- A register's name and its value. -/
abbrev Register := Text × Text

/-- One line of a log, by its kind. -/
inductive Line
  | trace (text : Text) (core : Int)
  | single (name value : Text)
  | multi (registers : List Register)
  | blank
  | malformed (words : Nat)
deriving DecidableEq, Repr

namespace Line

/-- How every trace line starts. -/
def traceStart : Text := Text.of "riscv"

/-- Whether a line is an instruction trace. -/
def isTrace (text : Text) : Bool :=
  traceStart.isPrefixOf text

/-- Neighbours taken together, if none is left over. -/
def pairUp? {α : Type} : List α → Option (List (α × α))
  | [] => some []
  | [_] => none
  | a :: b :: rest => (pairUp? rest).map ((a, b) :: ·)

/-- The kind of a line by its words. -/
def ofWords (skipBlank : Bool) (words : List Text) : Line :=
  match pairUp? words with
  | none => malformed words.length
  | some [] => if skipBlank then blank else malformed 0
  | some [(name, value)] => single name value
  | some registers => multi registers

/-- The kind of a line. Blank lines are malformed unless they are to be skipped. -/
def ofText (skipBlank : Bool) (text : Text) : Except HartTokenFault Line :=
  if isTrace text then
    (traceCore text).map (trace text)
  else
    .ok (ofWords skipBlank (Text.words text))

end Line

end HartTimeline
