import HartTimeline.Log.Pattern.Escape

/-!
# Classes in brackets

A class lists characters, ranges and escapes between brackets. Classes can stand within classes, and
those on two sides of a double sign are put together. Besides being well formed, a class has a
depth: how far its parts are nested.
-/

namespace HartTimeline.Pattern

/-- The depth of parts that stand side by side, from their own depths: a single one stands for
itself. -/
def nesting : List Nat → Nat
  | [] => 0
  | [d] => d
  | d :: ds => 1 + ds.foldl max d

/-- An open bracket: the depths of its items since the last double sign, and the depth of what
stands before that sign. -/
structure Bracket where
  items : List Nat
  before : Option Nat
deriving DecidableEq, Repr

namespace Bracket

/-- The depth of what an open bracket holds so far. -/
def depth (b : Bracket) : Nat :=
  match b.before with
  | none => nesting b.items
  | some d => 1 + max d (nesting b.items)

/-- The bracket with one more item. -/
def add (b : Bracket) (depth : Nat) : Bracket :=
  { b with items := depth :: b.items }

/-- The bracket after a double sign. -/
def sign (b : Bracket) : Bracket :=
  ⟨[], some b.depth⟩

end Bracket

/-! ## Items -/

/-- One item in brackets: a character or an escape. -/
def item (m : Mode) : Text → Option (Escape × Text)
  | [] => none
  | '\\' :: rest => (escape m rest).filter fun e => m.admitsInBrackets e.1
  | c :: rest =>
    (some (Escape.character c false, rest)).filter fun e => m.admitsInBrackets e.1

/-- The character that a dash is judged by: the next one or, where blanks are passed over, the next
one besides blanks and at most one number sign. -/
def beyondDash? (m : Mode) (t : Text) : Option Char :=
  if m.spaced then
    match t.dropWhile Text.isBlank with
    | '#' :: rest => (rest.dropWhile Text.isBlank).head?
    | rest => rest.head?
  else t.head?

/-- The text after an item, or after a range of characters from a lower to a higher one. A dash
before a closing bracket or another dash makes no range. -/
def itemOrRange (m : Mode) (t : Text) : Option Text :=
  match item m t with
  | none => none
  | some (first, rest) =>
    match m.skip rest with
    | [] => none
    | '-' :: rest =>
      if beyondDash? m rest = some ']' || beyondDash? m rest = some '-' then some ('-' :: rest)
      else
        match first, item m (m.skip rest) with
        | .character low _, some (.character high _, rest) =>
          if low ≤ high then some rest else none
        | _, _ => none
    | rest => some rest

/-- The number of dashes at the front, and the text after them. The first count bounds their
number. -/
def dashes (m : Mode) : Nat → Text → Nat × Text
  | 0, t => (0, t)
  | n + 1, t =>
    match t with
    | '-' :: rest =>
      let (count, rest) := dashes m n (m.skip rest)
      (count + 1, rest)
    | t => (0, t)

/-- The names of ASCII classes. -/
def asciiClassNames : List Text :=
  [Text.of "alnum", Text.of "alpha", Text.of "ascii", Text.of "blank", Text.of "cntrl",
    Text.of "digit", Text.of "graph", Text.of "lower", Text.of "print", Text.of "punct",
    Text.of "space", Text.of "upper", Text.of "word", Text.of "xdigit"]

/-- The text after a name and the end of an ASCII class. -/
def asciiClassEnd? (t : Text) : Option Text :=
  match t.dropWhile (· ≠ ':') with
  | ':' :: ']' :: rest =>
    if asciiClassNames.contains (t.takeWhile (· ≠ ':')) then some rest else none
  | _ => none

/-- An ASCII class, read after its opening bracket: whether it is negated, and the text after it. -/
def asciiClass? : Text → Option (Bool × Text)
  | ':' :: '^' :: rest => (asciiClassEnd? rest).map fun rest => (true, rest)
  | ':' :: rest => (asciiClassEnd? rest).map fun rest => (false, rest)
  | _ => none

/-! ## Brackets -/

/-- What stands behind an opening bracket: a caret that negates, and dashes or else a closing
bracket that stand for themselves. Without characters nothing can be negated. -/
def openBracket (m : Mode) (t : Text) : Option (Bracket × Text) :=
  let (negated, t) := match m.skip t with
    | '^' :: rest => (true, m.skip rest)
    | t => (false, t)
  if negated && !m.unicode then none
  else
    match t with
    | ']' :: rest => some (⟨[0], none⟩, m.skip rest)
    | t =>
      let (count, rest) := dashes m t.length t
      some (⟨List.replicate count 0, none⟩, rest)

/-- The depth of a class and the text after it, given the brackets that are open, innermost first.
The count bounds the number of items. -/
def brackets (m : Mode) : Nat → Bracket → List Bracket → Text → Option (Nat × Text)
  | 0, _, _, _ => none
  | n + 1, b, around, t =>
    match m.skip t with
    | [] => none
    | '[' :: rest =>
      match asciiClass? rest with
      | some (negated, rest) =>
        if negated && !m.unicode then none else brackets m n (b.add 0) around rest
      | none =>
        match openBracket m rest with
        | none => none
        | some (inner, rest) => brackets m n inner (b :: around) rest
    | ']' :: rest =>
      match around with
      | [] => some (1 + b.depth, rest)
      | outer :: around => brackets m n (outer.add (1 + b.depth)) around rest
    | '&' :: '&' :: rest => brackets m n b.sign around rest
    | '-' :: '-' :: rest => brackets m n b.sign around rest
    | '~' :: '~' :: rest => brackets m n b.sign around rest
    | t => (itemOrRange m t).bind (brackets m n (b.add 0) around)

/-- A class, read after its opening bracket: its depth, and the text after it. -/
def bracketed (m : Mode) (t : Text) : Option (Nat × Text) :=
  match openBracket m t with
  | none => none
  | some (b, rest) => brackets m (rest.length + 1) b [] rest

end HartTimeline.Pattern
