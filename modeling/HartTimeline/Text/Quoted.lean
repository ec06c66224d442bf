import HartTimeline.Text.Unprintable
import HartTimeline.Text.Combining

/-!
# Quoted text

Error messages show a piece of input between double quotes. Quotes, backslashes and the common
control characters have short escapes; every other character that would not be recognisable on
its own is given by its code point in hexadecimal.
-/

namespace HartTimeline.Text

/-- A non-ASCII character that is given by its code point. -/
def isObscure (c : Char) : Bool :=
  unprintable.contains c || extendingMark.contains c || defaultIgnorable.contains c

/-- The escape that names a code point. -/
def codePointEscape (c : Char) : Text :=
  Text.of "\\u\x7b" ++ Nat.toDigits 16 c.toNat ++ ['\x7d']

/-- One character as it stands between the quotes. -/
def quoteChar (c : Char) : Text :=
  match c with
  | '"' => ['\\', '"']
  | '\\' => ['\\', '\\']
  | '\t' => ['\\', 't']
  | '\n' => ['\\', 'n']
  | '\r' => ['\\', 'r']
  | '\x00' => ['\\', '0']
  | c => if ' ' ≤ c ∧ c ≤ '~' then [c] else if isObscure c then codePointEscape c else [c]

/-- A text between double quotes. -/
def quoted (t : Text) : Text :=
  '"' :: t.flatMap quoteChar ++ ['"']

end HartTimeline.Text
