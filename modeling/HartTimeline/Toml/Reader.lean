import HartTimeline.Text.Charset

/-!
# Reading TOML, the small parts

A reader takes what it needs from the front of a text and gives the rest. Here are blanks, line
ends and comments, and runs of characters and digits.
-/

namespace HartTimeline.Toml

/-- A reader of values of a type. -/
abbrev Reader (α : Type) := Text → Option (α × Text)

/-- A blank within a line. -/
def isSpace (c : Char) : Bool :=
  c = ' ' || c = '\t'

/-- A character that may stand in a comment, and in strings if nothing else speaks against it. -/
def isPlain (c : Char) : Bool :=
  c = '\t' || (' ' ≤ c && c ≠ '\x7f')

/-- The text after blanks within the line. -/
def skipSpaces (t : Text) : Text :=
  t.dropWhile isSpace

/-- The text after a line break. -/
def newLine? : Text → Option Text
  | '\n' :: rest => some rest
  | '\r' :: '\n' :: rest => some rest
  | _ => none

/-- The text after a comment, if one stands at the front. -/
def skipComment : Text → Text
  | '#' :: rest => rest.dropWhile isPlain
  | t => t

/-- The text after the end of a line: blanks, a comment, and a line break unless the text ends. -/
def lineEnd? (t : Text) : Option Text :=
  match skipComment (skipSpaces t) with
  | [] => some []
  | rest => newLine? rest

/-- The text after blanks, line breaks and comments, each comment closed by a line break. The count
bounds the number of lines. -/
def skipLines : Nat → Text → Text
  | 0, t => t
  | n + 1, t =>
    match newLine? (skipComment (skipSpaces t)) with
    | some rest => skipLines n rest
    | none => skipSpaces t

/-- The text after blanks, line breaks and comments. -/
def skipGap (t : Text) : Text :=
  skipLines t.length t

/-- The text after a given character. -/
def expect? (c : Char) : Text → Option Text
  | d :: rest => if d = c then some rest else none
  | [] => none

/-- Digits, between which single underscores may stand; they are left out. -/
def digitRun (isDigit : Char → Bool) : Text → Text × Text
  | [] => ([], [])
  | '_' :: d :: rest =>
    if isDigit d then digitRun isDigit (d :: rest) else ([], '_' :: d :: rest)
  | c :: rest =>
    if isDigit c then
      let (digits, rest) := digitRun isDigit rest
      (c :: digits, rest)
    else ([], c :: rest)

/-- At least one digit, between which single underscores may stand. -/
def digits (isDigit : Char → Bool) : Reader Text
  | c :: rest => if isDigit c then some (digitRun isDigit (c :: rest)) else none
  | [] => none

/-- A hexadecimal digit. -/
def isHexDigit (c : Char) : Bool :=
  c.isDigit || ('a' ≤ c && c ≤ 'f') || ('A' ≤ c && c ≤ 'F')

/-- The value of a digit in any base up to sixteen. -/
def digitValue (c : Char) : Nat :=
  if c.isDigit then c.toNat - '0'.toNat
  else if 'a' ≤ c then c.toNat - 'a'.toNat + 10
  else c.toNat - 'A'.toNat + 10

/-- The value of digits in a base. -/
def ofDigits (base : Nat) (ds : Text) : Nat :=
  ds.foldl (fun n d => n * base + digitValue d) 0

end HartTimeline.Toml
