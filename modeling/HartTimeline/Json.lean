import HartTimeline.Text.Decimal

/-!
# JSON documents

The JSON values that a summary is made of, and their text with two spaces of indentation per
level. Only what JSON demands is escaped.
-/

namespace HartTimeline

/-- A JSON value; numbers are natural. -/
inductive Json
  | bool (b : Bool)
  | number (n : Nat)
  | string (t : Text)
  | array (items : List Json)
  | object (fields : List (Text × Json))

namespace Json

/-- One character inside a JSON string. -/
def escapeChar (c : Char) : Text :=
  match c with
  | '"' => ['\\', '"']
  | '\\' => ['\\', '\\']
  | '\x08' => ['\\', 'b']
  | '\x0c' => ['\\', 'f']
  | '\n' => ['\\', 'n']
  | '\r' => ['\\', 'r']
  | '\t' => ['\\', 't']
  | c =>
    if c < ' ' then
      ['\\', 'u', '0', '0', Nat.digitChar (c.toNat / 16), Nat.digitChar (c.toNat % 16)]
    else [c]

/-- A JSON string. -/
def renderString (t : Text) : Text :=
  '"' :: t.flatMap escapeChar ++ ['"']

/-- A line break and the indentation of a level. -/
def newLine (level : Nat) : Text :=
  '\n' :: List.replicate (2 * level) ' '

mutual

/-- The text of a value that stands at a level. -/
def renderAt (level : Nat) : Json → Text
  | bool b => if b then Text.of "true" else Text.of "false"
  | number n => Text.decimal n
  | string t => renderString t
  | array [] => Text.of "[]"
  | array (item :: items) =>
    '[' :: newLine (level + 1) ++ renderAt (level + 1) item ++ renderItems level items
  | object [] => ['\x7b', '\x7d']
  | object (field :: fields) =>
    '\x7b' :: newLine (level + 1) ++ renderField (level + 1) field ++ renderFields level fields

/-- The further items of an array, and its end. -/
def renderItems (level : Nat) : List Json → Text
  | [] => newLine level ++ [']']
  | item :: items =>
    ',' :: newLine (level + 1) ++ renderAt (level + 1) item ++ renderItems level items

/-- A field of an object. -/
def renderField (level : Nat) : Text × Json → Text
  | (name, value) => renderString name ++ Text.of ": " ++ renderAt level value

/-- The further fields of an object, and its end. -/
def renderFields (level : Nat) : List (Text × Json) → Text
  | [] => newLine level ++ ['\x7d']
  | field :: fields =>
    ',' :: newLine (level + 1) ++ renderField (level + 1) field ++ renderFields level fields

end

/-- The text of a document. -/
def render (j : Json) : Text :=
  j.renderAt 0

end Json

end HartTimeline
