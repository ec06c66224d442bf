import HartTimeline.Text.Charset

/-!
# Decimal numerals

Numbers are written in base ten without padding. They are read back from ASCII digits alone:
`unsigned64?` takes an optional plus sign and `signed64?` either sign, and both refuse what
sixty-four bits cannot hold. Leading zeros do not matter.
-/

namespace HartTimeline.Text

/-- The decimal numeral of a natural number. -/
def decimal (n : Nat) : Text :=
  Nat.toDigits 10 n

/-- The decimal numeral of an integer, with a minus sign if it is negative. -/
def signedDecimal : Int → Text
  | .ofNat n => decimal n
  | .negSucc n => '-' :: decimal (n + 1)

/-- The value of a non-empty run of ASCII digits. -/
def digits? (t : Text) : Option Nat :=
  if t ≠ [] ∧ t.all Char.isDigit then some (Nat.ofDigitChars 10 t 0) else none

/-- The least signed 64-bit number. -/
def int64Min : Int := -0x8000000000000000

/-- The greatest signed 64-bit number. -/
def int64Max : Int := 0x7fffffffffffffff

/-- The integer that an optionally signed run of ASCII digits denotes. -/
def signed? : Text → Option Int
  | '+' :: ds => (digits? ds).map fun n => (n : Int)
  | '-' :: ds => (digits? ds).map fun n => -(n : Int)
  | ds => (digits? ds).map fun n => (n : Int)

/-- A signed 64-bit number. -/
def signed64? (t : Text) : Option Int :=
  (signed? t).filter fun n => int64Min ≤ n && n ≤ int64Max

/-- An unsigned 64-bit number; only a plus sign may stand before it. -/
def unsigned64? (t : Text) : Option Nat :=
  let digits := match t with
    | '+' :: ds => ds
    | ds => ds
  (digits? digits).filter (· < 0x10000000000000000)

/-! ## Writing and reading back -/

theorem decimal_ne_nil (n : Nat) : decimal n ≠ [] := Nat.toDigits_ne_nil

theorem isDigit_of_mem_decimal {n : Nat} {c : Char} (h : c ∈ decimal n) : c.isDigit = true :=
  Nat.isDigit_of_mem_toDigits (by decide) (by decide) h

/-- What is written is read back. -/
theorem digits?_decimal (n : Nat) : digits? (decimal n) = some n := by
  have hall : (decimal n).all Char.isDigit = true :=
    List.all_eq_true.2 fun _ h => isDigit_of_mem_decimal h
  rw [digits?, if_pos ⟨decimal_ne_nil n, hall⟩, decimal,
    Nat.ofDigitChars_toDigits (by decide) (by decide)]

/-- Different numbers have different numerals. -/
theorem decimal_inj {m n : Nat} (h : decimal m = decimal n) : m = n := by
  have := digits?_decimal m
  rw [h, digits?_decimal] at this
  exact (Option.some.inj this).symm

end HartTimeline.Text
