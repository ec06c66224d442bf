import HartTimeline.Text.Decimal
import HartTimeline.Toml.Reader

/-!
# Numbers in TOML

Integers are signed 64-bit numbers, in base ten with a sign or in base two, eight or sixteen
without one. Floats are recognised, and refused if they are too great for double precision.
-/

namespace HartTimeline.Toml

/-- Whether a sign in front is a minus, and the text after the sign. -/
def sign : Text → Bool × Text
  | '-' :: rest => (true, rest)
  | '+' :: rest => (false, rest)
  | t => (false, t)

/-- A run of decimal digits that starts with zero only if it is zero. -/
def wholeDigits : Reader Text
  | '0' :: rest => some (['0'], rest)
  | t => digits Char.isDigit t

/-- A number as an integer, if it is in range. -/
def integerOf? (n : Int) : Option Int :=
  if Text.int64Min ≤ n ∧ n ≤ Text.int64Max then some n else none

/-- An integer whose base a letter gives. -/
def radixInteger (base : Nat) (isDigit : Char → Bool) : Reader Int := fun t =>
  match digits isDigit t with
  | none => none
  | some (ds, rest) => (integerOf? (ofDigits base ds)).map fun n => (n, rest)

/-- An integer in base ten. -/
def decimalInteger : Reader Int := fun t =>
  let (negative, t) := sign t
  match wholeDigits t with
  | none => none
  | some (ds, rest) =>
    let n : Int := ofDigits 10 ds
    (integerOf? (if negative then -n else n)).map fun n => (n, rest)

/-- An integer. -/
def integer : Reader Int
  | '0' :: 'x' :: rest => radixInteger 16 isHexDigit rest
  | '0' :: 'o' :: rest => radixInteger 8 (fun c => '0' ≤ c && c ≤ '7') rest
  | '0' :: 'b' :: rest => radixInteger 2 (fun c => c = '0' || c = '1') rest
  | t => decimalInteger t

/-! ## Floats -/

/-- The exponent part of a float. -/
def exponent : Reader Int
  | c :: t =>
    if c = 'e' ∨ c = 'E' then
      let (negative, t) := sign t
      (digits Char.isDigit t).map fun (ds, rest) =>
        (if negative then -(ofDigits 10 ds : Int) else ofDigits 10 ds, rest)
    else none
  | [] => none

/-- Whether digits times a power of ten round to infinity in double precision: whether they reach
the middle between the greatest finite number and the power of two after it. -/
def isHuge (ds : Text) (exponent : Int) : Bool :=
  let m := ofDigits 10 ds
  let limit := Nat.pow 2 1024 - Nat.pow 2 970
  let magnitude : Int := (ds.dropWhile (· = '0')).length + exponent
  if m = 0 ∨ magnitude < 300 then false
  else if 320 < magnitude then true
  else if 0 ≤ exponent then limit ≤ m * Nat.pow 10 exponent.toNat
  else limit * Nat.pow 10 (-exponent).toNat ≤ m

/-- The fraction of a float, or none, and the exponent, or zero; one of them must be there. -/
def floatTail : Reader (Text × Int)
  | '.' :: t =>
    (digits Char.isDigit t).map fun (fraction, rest) =>
      match exponent rest with
      | some (e, rest) => ((fraction, e), rest)
      | none => ((fraction, 0), rest)
  | t => (exponent t).map fun (e, rest) => (([], e), rest)

/-- A float, without its value. -/
def float : Reader Unit := fun t =>
  let (negative, t) := sign t
  match t with
  | 'i' :: 'n' :: 'f' :: rest => some ((), rest)
  | 'n' :: 'a' :: 'n' :: rest => some ((), rest)
  | t =>
    match wholeDigits t with
    | none => none
    | some (whole, rest) =>
      match floatTail rest with
      | none => none
      | some ((fraction, e), rest) =>
        if !negative && isHuge (whole ++ fraction) (e - fraction.length) then none
        else some ((), rest)

end HartTimeline.Toml
