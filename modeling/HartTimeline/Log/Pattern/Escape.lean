import HartTimeline.Text.Blank

/-!
# Escapes in patterns

What may follow a backslash in a pattern, under the flags that are in force. A pattern stands
between braces, so none of the escapes that are written with braces can occur in it.
-/

namespace HartTimeline.Pattern

/-! ## Modes -/

/-- What flags change about reading: whether blanks and comments are passed over, and whether
characters are matched or else bytes. -/
structure Mode where
  spaced : Bool
  unicode : Bool
deriving DecidableEq, Repr

/-- The mode before any flag. -/
def Mode.plain : Mode := ⟨false, true⟩

/-- The mode after a flag has been turned on or off. -/
def Mode.set (m : Mode) (flag : Char) (on : Bool) : Mode :=
  if flag = 'x' then { m with spaced := on }
  else if flag = 'u' then { m with unicode := on }
  else m

/-- The text after blanks and comments, perhaps from within a comment on. -/
def skipIgnored (inComment : Bool) : Text → Text
  | [] => []
  | c :: rest =>
    if inComment then skipIgnored (c ≠ '\n') rest
    else if Text.isBlank c then skipIgnored false rest
    else if c = '#' then skipIgnored true rest
    else c :: rest

/-- The text after what the mode passes over. -/
def Mode.skip (m : Mode) (t : Text) : Text :=
  if m.spaced then skipIgnored false t else t

/-! ## Escapes -/

/-- What an escape stands for. A character can be given as a byte, and the shorthand for a class of
characters can be negated. -/
inductive Escape
  | character (c : Char) (asByte : Bool)
  | shorthand (negated : Bool)
  | property
  | wordBoundary
  | textEdge
deriving DecidableEq, Repr

/-- A hexadecimal digit. -/
def isHexDigit (c : Char) : Bool :=
  c.isDigit || ('a' ≤ c && c ≤ 'f') || ('A' ≤ c && c ≤ 'F')

/-- The value of a hexadecimal digit. -/
def hexValue (c : Char) : Nat :=
  if c.isDigit then c.toNat - '0'.toNat
  else if 'a' ≤ c then c.toNat - 'a'.toNat + 10
  else c.toNat - 'A'.toNat + 10

/-- The number that so many hexadecimal digits add to the one before them. -/
def hexNumber (m : Mode) : Nat → Nat → Text → Option (Nat × Text)
  | 0, n, t => some (n, t)
  | count + 1, n, t =>
    match m.skip t with
    | [] => none
    | c :: rest => if isHexDigit c then hexNumber m count (n * 16 + hexValue c) rest else none

/-- The character whose code so many hexadecimal digits give. -/
def hexCharacter (m : Mode) (count : Nat) (t : Text) : Option (Escape × Text) :=
  match hexNumber m count 0 t with
  | none => none
  | some (n, rest) =>
    if n.isValidChar then some (.character (Char.ofNat n) (count = 2), m.skip rest) else none

/-- A property given by one letter, the general categories being those that have such a name. -/
def oneLetterProperty (m : Mode) (t : Text) : Option (Escape × Text) :=
  match m.skip t with
  | [] => none
  | c :: rest =>
    if (Text.of "clmnpszCLMNPSZ").contains c then some (.property, m.skip rest) else none

/-- The characters that stand for themselves after a backslash: those of ASCII but letters, digits
and angle brackets. -/
def isEscapable (c : Char) : Bool :=
  c.toNat < 128 && !c.isAlphanum && c ≠ '<' && c ≠ '>'

/-- An escape, read after the backslash. -/
def escape (m : Mode) : Text → Option (Escape × Text)
  | [] => none
  | 'x' :: rest => hexCharacter m 2 rest
  | 'u' :: rest => hexCharacter m 4 rest
  | 'U' :: rest => hexCharacter m 8 rest
  | 'p' :: rest => oneLetterProperty m rest
  | 'P' :: rest => oneLetterProperty m rest
  | 'd' :: rest => some (.shorthand false, rest)
  | 's' :: rest => some (.shorthand false, rest)
  | 'w' :: rest => some (.shorthand false, rest)
  | 'D' :: rest => some (.shorthand true, rest)
  | 'S' :: rest => some (.shorthand true, rest)
  | 'W' :: rest => some (.shorthand true, rest)
  | 'a' :: rest => some (.character '\x07' false, rest)
  | 'f' :: rest => some (.character '\x0c' false, rest)
  | 't' :: rest => some (.character '\t' false, rest)
  | 'n' :: rest => some (.character '\n' false, rest)
  | 'r' :: rest => some (.character '\r' false, rest)
  | 'v' :: rest => some (.character '\x0b' false, rest)
  | 'A' :: rest => some (.textEdge, rest)
  | 'z' :: rest => some (.textEdge, rest)
  | 'b' :: rest => some (.wordBoundary, rest)
  | 'B' :: rest => some (.wordBoundary, rest)
  | '<' :: rest => some (.wordBoundary, rest)
  | '>' :: rest => some (.wordBoundary, rest)
  | c :: rest => if isEscapable c then some (.character c false, rest) else none

/-- Whether an escape may stand outside brackets: bytes must make up characters. -/
def Mode.admits (m : Mode) : Escape → Bool
  | .character c asByte => m.unicode || !asByte || c.toNat < 128
  | .shorthand negated => m.unicode || !negated
  | .property => m.unicode
  | .wordBoundary | .textEdge => true

/-- Whether an escape, or a character as itself, may stand in brackets. -/
def Mode.admitsInBrackets (m : Mode) : Escape → Bool
  | .character c _ => m.unicode || c.toNat < 128
  | .shorthand negated => m.unicode || !negated
  | .property => m.unicode
  | .wordBoundary | .textEdge => false

end HartTimeline.Pattern
