import HartTimeline.Toml.Reader

/-!
# Dates and times in TOML

A date, a time of day, or both, then perhaps with an offset. Days must exist in the calendar; a
minute may have a sixty-first second.
-/

namespace HartTimeline.Toml

/-- A number of exactly so many digits, up to a limit. -/
def fixedNumber (count limit : Nat) : Reader Nat := fun t =>
  let ds := t.take count
  if ds.length = count && ds.all Char.isDigit && ofDigits 10 ds ≤ limit then
    some (ofDigits 10 ds, t.drop count)
  else none

/-- The number of days in a month. -/
def daysInMonth (year month : Nat) : Nat :=
  if month = 2 then
    if year % 4 = 0 ∧ (year % 100 ≠ 0 ∨ year % 400 = 0) then 29 else 28
  else if month = 4 ∨ month = 6 ∨ month = 9 ∨ month = 11 then 30
  else 31

/-- The text after a date. -/
def date? (t : Text) : Option Text := do
  let (year, t) ← fixedNumber 4 9999 t
  let t ← expect? '-' t
  let (month, t) ← fixedNumber 2 12 t
  let t ← expect? '-' t
  let (day, t) ← fixedNumber 2 (daysInMonth year month) t
  if month = 0 ∨ day = 0 then none else some t

/-- The text after the digits of a fraction of a second, if a point and a digit stand there. -/
def skipFraction : Text → Text
  | '.' :: c :: rest => if c.isDigit then rest.dropWhile Char.isDigit else '.' :: c :: rest
  | t => t

/-- The text after a time of day. -/
def time? (t : Text) : Option Text := do
  let (_, t) ← fixedNumber 2 23 t
  let t ← expect? ':' t
  let (_, t) ← fixedNumber 2 59 t
  let t ← expect? ':' t
  let (_, t) ← fixedNumber 2 60 t
  some (skipFraction t)

/-- The text after the hours and minutes of an offset. -/
def offsetTime? (t : Text) : Option Text := do
  let (_, t) ← fixedNumber 2 23 t
  let t ← expect? ':' t
  let (_, t) ← fixedNumber 2 59 t
  some t

/-- The text after an offset, if one stands there. -/
def skipOffset : Text → Text
  | 'Z' :: rest => rest
  | 'z' :: rest => rest
  | '+' :: rest => (offsetTime? rest).getD ('+' :: rest)
  | '-' :: rest => (offsetTime? rest).getD ('-' :: rest)
  | t => t

/-- The text after a time of day and an offset that may follow a date, if they stand there. -/
def skipTime : Text → Text
  | c :: t =>
    if c = 'T' ∨ c = 't' ∨ c = ' ' then
      match time? t with
      | some rest => skipOffset rest
      | none => c :: t
    else c :: t
  | [] => []

/-- The text after a date, a time of day, or both. -/
def dateTime? (t : Text) : Option Text :=
  match date? t with
  | some rest => some (skipTime rest)
  | none => time? t

end HartTimeline.Toml
