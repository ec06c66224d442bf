import HartTimeline.Toml.Reader

/-!
# Strings in TOML

Four forms: basic strings with escapes, literal strings without, and both over several lines.
-/

namespace HartTimeline.Toml

/-- The character with a code given by hexadecimal digits, if there is one. -/
def charOfHex? (ds : Text) : Option Char :=
  let n := ofDigits 16 ds
  if ds.all isHexDigit && n.isValidChar then some (Char.ofNat n) else none

/-- The character that a one-letter escape stands for. -/
def shortEscape? : Char → Option Char
  | 'b' => some '\x08'
  | 't' => some '\t'
  | 'n' => some '\n'
  | 'f' => some '\x0c'
  | 'r' => some '\r'
  | '"' => some '"'
  | '\\' => some '\\'
  | _ => none

/-- The character that an escape stands for, read after the backslash. -/
def escape : Reader Char
  | 'u' :: a :: b :: c :: d :: rest => (charOfHex? [a, b, c, d]).map fun e => (e, rest)
  | 'U' :: a :: b :: c :: d :: e :: f :: g :: h :: rest =>
    (charOfHex? [a, b, c, d, e, f, g, h]).map fun e => (e, rest)
  | c :: rest => (shortEscape? c).map fun e => (e, rest)
  | [] => none

/-- An escape takes up some of the text. -/
theorem length_lt_of_escape {t rest : Text} {c : Char} (h : escape t = some (c, rest)) :
    rest.length < t.length := by
  unfold escape at h
  split at h
  case h_4 => exact absurd h (by simp)
  all_goals
    obtain ⟨_, -, h⟩ := Option.map_eq_some_iff.1 h
    obtain ⟨-, rfl⟩ := Prod.mk.inj h
    simp only [List.length_cons]
    omega

/-- A character before what a reader gives. -/
def consChar (c : Char) : Option (Text × Text) → Option (Text × Text) :=
  Option.map fun (s, rest) => (c :: s, rest)

/-- The rest of a basic string, after the opening quote. -/
def basicBody (t : Text) : Option (Text × Text) :=
  match t with
  | [] => none
  | '"' :: rest => some ([], rest)
  | '\\' :: rest =>
    match h : escape rest with
    | some (c, rest') =>
      have := length_lt_of_escape h
      consChar c (basicBody rest')
    | none => none
  | c :: rest => if isPlain c then consChar c (basicBody rest) else none
termination_by t.length

/-- The rest of a literal string, after the opening quote. -/
def literalBody : Text → Option (Text × Text)
  | [] => none
  | '\'' :: rest => some ([], rest)
  | c :: rest => if isPlain c then consChar c (literalBody rest) else none

/-- The text after blanks and line breaks; the count bounds the number of lines. -/
def skipBreaks : Nat → Text → Text
  | 0, t => t
  | n + 1, t =>
    match newLine? (skipSpaces t) with
    | some rest => skipBreaks n rest
    | none => skipSpaces t

/-- The text after what a backslash at the end of a line joins to the next word: the rest of the
line, which must be blank, and further blanks and line breaks. -/
def skipJoin? (t : Text) : Option Text :=
  (newLine? (skipSpaces t)).map (skipBreaks t.length)

/-- The rest of a basic string over several lines. Up to two quotes may stand directly before the
closing three. The count bounds the number of characters. -/
def longBasicBody (fuel : Nat) (t : Text) : Option (Text × Text) :=
  match fuel with
  | 0 => none
  | fuel + 1 =>
    match t with
    | [] => none
    | '"' :: '"' :: '"' :: '"' :: '"' :: rest => some (['"', '"'], rest)
    | '"' :: '"' :: '"' :: '"' :: rest => some (['"'], rest)
    | '"' :: '"' :: '"' :: rest => some ([], rest)
    | '\\' :: rest =>
      match skipJoin? rest, escape rest with
      | some rest, _ => longBasicBody fuel rest
      | none, some (c, rest) => consChar c (longBasicBody fuel rest)
      | none, none => none
    | '\n' :: rest => consChar '\n' (longBasicBody fuel rest)
    | '\r' :: '\n' :: rest => consChar '\n' (longBasicBody fuel rest)
    | c :: rest => if isPlain c then consChar c (longBasicBody fuel rest) else none

/-- The rest of a literal string over several lines. Up to two quotes may stand directly before the
closing three. -/
def longLiteralBody : Text → Option (Text × Text)
  | [] => none
  | '\'' :: '\'' :: '\'' :: '\'' :: '\'' :: rest => some (['\'', '\''], rest)
  | '\'' :: '\'' :: '\'' :: '\'' :: rest => some (['\''], rest)
  | '\'' :: '\'' :: '\'' :: rest => some ([], rest)
  | '\n' :: rest => consChar '\n' (longLiteralBody rest)
  | '\r' :: '\n' :: rest => consChar '\n' (longLiteralBody rest)
  | c :: rest => if isPlain c then consChar c (longLiteralBody rest) else none

/-- The text after the line break that may follow an opening delimiter. -/
def skipFirstBreak (t : Text) : Text :=
  (newLine? t).getD t

/-- A string on one line. -/
def shortString : Reader Text
  | '"' :: rest => basicBody rest
  | '\'' :: rest => literalBody rest
  | _ => none

/-- A string in any of the four forms. -/
def string : Reader Text
  | '"' :: '"' :: '"' :: rest => longBasicBody (rest.length + 1) (skipFirstBreak rest)
  | '\'' :: '\'' :: '\'' :: rest => longLiteralBody (skipFirstBreak rest)
  | t => shortString t

end HartTimeline.Toml
