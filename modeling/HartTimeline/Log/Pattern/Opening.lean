import HartTimeline.Log.Pattern.Escape
import HartTimeline.Text.Alphanumeric

/-!
# Parentheses in patterns

An opening parenthesis begins a group, or turns flags on and off for what follows.
-/

namespace HartTimeline.Pattern

/-- What an opening parenthesis begins: a group, perhaps with a name, or flags for what follows. -/
inductive Opening
  | group (mode : Mode) (name : Option Text)
  | flags (mode : Mode)
deriving DecidableEq, Repr

/-- Flags, each given once, of which those after the only minus sign are turned off, and what they
are for. -/
def flags (m : Mode) (seen : List Char) (off afterMinus : Bool) : Text → Option (Opening × Text)
  | [] => none
  | ':' :: rest => if afterMinus then none else some (.group m none, rest)
  | ')' :: rest => if afterMinus || seen.isEmpty then none else some (.flags m, rest)
  | '-' :: rest => if off then none else flags m seen true true rest
  | c :: rest =>
    if (Text.of "imsUuRx").contains c && !seen.contains c then
      flags (m.set c !off) (c :: seen) off false rest
    else none

/-- Whether a text names a group. -/
def isGroupName : Text → Bool
  | [] => false
  | c :: rest =>
    (c = '_' || Text.isAlphabetic c)
      && rest.all fun c => (['_', '.', '[', ']'].contains c) || Text.isAlphanumeric c

/-- A group's name with the bracket after it. -/
def named (m : Mode) (t : Text) : Option (Opening × Text) :=
  match t.dropWhile (· ≠ '>') with
  | [] => none
  | _ :: rest =>
    let name := t.takeWhile (· ≠ '>')
    if isGroupName name then some (.group m (some name), rest) else none

/-- What an opening parenthesis begins, read after it. -/
def opening (m : Mode) (t : Text) : Option (Opening × Text) :=
  match m.skip t with
  | '?' :: '<' :: '=' :: _ => none
  | '?' :: '<' :: '!' :: _ => none
  | '?' :: 'P' :: '<' :: rest => named m rest
  | '?' :: '<' :: rest => named m rest
  | '?' :: rest => flags m [] false false rest
  | rest => some (.group m none, rest)

end HartTimeline.Pattern
