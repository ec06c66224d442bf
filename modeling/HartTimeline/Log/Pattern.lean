import HartTimeline.Log.Pattern.Bracket
import HartTimeline.Log.Pattern.Opening

/-!
# Patterns for field values

Which texts may stand for the value of a field in a log directive: numbers, and regular expressions
that an automaton can be built for. They must be well formed and must not be nested too deep, and
the automaton cannot tell word boundaries unless they are those of ASCII.
-/

namespace HartTimeline.Pattern

/-- Why no automaton can be built for a text. -/
inductive Fault
  | malformed
  | wordBoundary
deriving DecidableEq, Repr

/-! ## Parts -/

/-- A part of an expression: its depth, and whether it can be repeated. -/
structure Part where
  depth : Nat
  repeatable : Bool
deriving DecidableEq, Repr

/-- What has been read of a group, or of the whole: the parts of the last alternative, latest first,
and the depths of the alternatives before it. -/
structure Level where
  parts : List Part
  alternatives : List Nat
deriving DecidableEq, Repr

namespace Level

/-- A level of which nothing has been read. -/
def empty : Level := ⟨[], []⟩

/-- The depth of the last alternative. -/
def lastDepth (l : Level) : Nat :=
  nesting (l.parts.map Part.depth)

/-- The depth of the level. -/
def depth (l : Level) : Nat :=
  nesting (l.lastDepth :: l.alternatives)

/-- The level with one more part. -/
def add (l : Level) (p : Part) : Level :=
  { l with parts := p :: l.parts }

/-- The level with a new alternative begun. -/
def alternate (l : Level) : Level :=
  ⟨[], l.lastDepth :: l.alternatives⟩

/-- The level with its last part repeated, if there is one that can be. -/
def repeatLast? (l : Level) : Option Level :=
  match l.parts with
  | [] => none
  | p :: ps => if p.repeatable then some { l with parts := ⟨1 + p.depth, true⟩ :: ps } else none

end Level

/-! ## Reading -/

/-- Where the reading of an expression stands: the mode, the level, the modes and levels around it,
the names of groups so far, and whether there was a word boundary among characters. -/
structure Reading where
  mode : Mode
  level : Level
  around : List (Mode × Level)
  names : List Text
  boundary : Bool

namespace Reading

/-- The start of an expression. -/
def start : Reading := ⟨Mode.plain, Level.empty, [], [], false⟩

/-- The reading after a part of a depth. -/
def add (r : Reading) (depth : Nat) : Reading :=
  { r with level := r.level.add ⟨depth, true⟩ }

/-- The reading after an opening parenthesis and what belongs to it. -/
def enter? (r : Reading) : Opening → Option Reading
  | .flags m => some { r with mode := m, level := r.level.add ⟨0, false⟩ }
  | .group m none =>
    some { r with mode := m, level := Level.empty, around := (r.mode, r.level) :: r.around }
  | .group m (some name) =>
    if r.names.contains name then none
    else some { r with
      mode := m, level := Level.empty, around := (r.mode, r.level) :: r.around,
      names := name :: r.names }

/-- The reading after a closing parenthesis, if one is open. -/
def leave? (r : Reading) : Option Reading :=
  match r.around with
  | [] => none
  | (m, l) :: around =>
    some { r with mode := m, level := l.add ⟨1 + r.level.depth, true⟩, around := around }

/-- The reading after an escape, if it may stand there. -/
def escape? (r : Reading) (e : Escape) : Option Reading :=
  if r.mode.admits e then
    some { r.add 0 with boundary := r.boundary || (e = .wordBoundary && r.mode.unicode) }
  else none

/-- The reading after the sign of a repetition, which may be followed by a question mark. -/
def repeat? (r : Reading) (rest : Text) : Option (Reading × Text) :=
  match r.level.repeatLast? with
  | none => none
  | some l => some ({ r with level := l }, if rest.head? = some '?' then rest.tail else rest)

/-- The reading after the part that starts with a character, and the text after it. -/
def next? (r : Reading) (c : Char) (rest : Text) : Option (Reading × Text) :=
  if c = '(' then
    match opening r.mode rest with
    | none => none
    | some (o, rest) => (r.enter? o).map fun r => (r, rest)
  else if c = ')' then r.leave?.map fun r => (r, rest)
  else if c = '|' then some ({ r with level := r.level.alternate }, rest)
  else if c = '[' then (bracketed r.mode rest).map fun (depth, rest) => (r.add depth, rest)
  else if c = '?' || c = '*' || c = '+' then r.repeat? rest
  else if c = '\x7b' then none
  else if c = '\\' then
    match escape r.mode rest with
    | none => none
    | some (e, rest) => (r.escape? e).map fun r => (r, rest)
  else if c = '.' && !r.mode.unicode then none
  else some (r.add 0, rest)

/-- The reading at the end of a text. The count bounds the number of parts. -/
def finish? : Nat → Reading → Text → Option Reading
  | 0, _, _ => none
  | n + 1, r, t =>
    match r.mode.skip t with
    | [] => if r.around.isEmpty then some r else none
    | c :: rest => (r.next? c rest).bind fun (r, rest) => finish? n r rest

end Reading

/-! ## Values -/

/-- How deep the parts of an expression may be nested. -/
def depthLimit : Nat := 250

/-- What keeps a regular expression from being made into an automaton, if anything does. -/
def expressionFault? (t : Text) : Option Fault :=
  match Reading.finish? (t.length + 1) Reading.start t with
  | none => some .malformed
  | some r =>
    if depthLimit < r.level.depth then some .malformed
    else if r.boundary then some .wordBoundary
    else none

/-- Whether digits with at most one point among them, and perhaps an exponent, make up a text. -/
def isDecimalFraction (t : Text) : Bool :=
  let mantissa := t.takeWhile fun c => c ≠ 'e' && c ≠ 'E'
  let digits := mantissa.filter (· ≠ '.')
  let exponent := match t.drop mantissa.length with
    | [] => none
    | _ :: '+' :: ds => some ds
    | _ :: '-' :: ds => some ds
    | _ :: ds => some ds
  mantissa.count '.' ≤ 1 && digits ≠ [] && digits.all Char.isDigit
    && exponent.all fun ds => ds ≠ [] && ds.all Char.isDigit

/-- Whether a text is a number with a plus sign, which no regular expression can start with. -/
def isPlusNumber : Text → Bool
  | '+' :: t =>
    isDecimalFraction t
      || [Text.of "inf", Text.of "infinity", Text.of "nan"].contains (t.map Char.toLower)
  | _ => false

/-- What keeps a text from standing for the value of a field, if anything does. -/
def fault? (t : Text) : Option Fault :=
  if isPlusNumber t then none else expressionFault? t

end HartTimeline.Pattern
