/-!
# Texts and character sets

A `Text` is a list of characters, so that every rule about lines, words and quoting can be
stated by recursion on it. A `Charset` is a character property given by ascending inclusive
ranges of code points; the properties themselves are tables in modules of their own.

Main statement: `Charset.contains_iff`, a look-up that stops at the first range beyond the
character finds exactly the characters of the ranges.
-/

namespace HartTimeline

/-- A text, as the list of its characters. -/
abbrev Text := List Char

/-- Texts are compared lawfully. The instance has a name of its own, so that definitions which look
for a text in a list share it and do not each carry its proof. -/
instance Text.lawfulBEq : LawfulBEq Text :=
  inferInstanceAs (LawfulBEq (List Char))

/-- The characters of a string. -/
def Text.of (s : String) : Text :=
  s.toList

/-- An inclusive range of code points. -/
structure CodeRange where
  low : Nat
  high : Nat
deriving DecidableEq, Repr

namespace Charset

/-- Whether ranges follow one another from a lower bound on, without touching it or each other. -/
def ascendsFrom : Nat → List CodeRange → Bool
  | _, [] => true
  | bound, r :: rest => bound ≤ r.low && r.low ≤ r.high && ascendsFrom (r.high + 1) rest

/-- Whether an ascending list of ranges covers a code point. -/
def covers (n : Nat) : List CodeRange → Bool
  | [] => false
  | r :: rest => if n < r.low then false else n ≤ r.high || covers n rest

/-- Nothing below the bound is covered. -/
theorem covers_eq_false_of_lt {n bound : Nat} {rs : List CodeRange}
    (hrs : ascendsFrom bound rs = true) (hn : n < bound) : covers n rs = false := by
  cases rs with
  | nil => rfl
  | cons r rest =>
    simp only [ascendsFrom, Bool.and_eq_true, decide_eq_true_eq] at hrs
    rw [covers, if_pos (by omega)]

/-- Covering means lying in one of the ranges. -/
theorem covers_iff {n bound : Nat} {rs : List CodeRange} (hrs : ascendsFrom bound rs = true) :
    covers n rs = true ↔ ∃ r ∈ rs, r.low ≤ n ∧ n ≤ r.high := by
  induction rs generalizing bound with
  | nil => simp [covers]
  | cons r rest ih =>
    simp only [ascendsFrom, Bool.and_eq_true, decide_eq_true_eq] at hrs
    have hrest := ih hrs.2
    by_cases hlow : n < r.low
    · have hnone : covers n rest = false := covers_eq_false_of_lt hrs.2 (by omega)
      have hno : ¬∃ r ∈ rest, r.low ≤ n ∧ n ≤ r.high := fun h => by
        simp [hrest.2 h] at hnone
      simp only [covers, hlow, if_true, List.mem_cons, exists_eq_or_imp]
      constructor
      · intro h; cases h
      · rintro (h | h)
        · omega
        · exact absurd h hno
    · simp only [covers, hlow, if_false, Bool.or_eq_true, decide_eq_true_eq, List.mem_cons,
        exists_eq_or_imp, hrest]
      constructor
      · rintro (h | h)
        · exact Or.inl ⟨by omega, h⟩
        · exact Or.inr h
      · rintro (h | h)
        · exact Or.inl h.2
        · exact Or.inr h

end Charset

/-- A set of characters, as ascending inclusive ranges of code points. -/
structure Charset where
  ranges : List CodeRange
  ascends : Charset.ascendsFrom 0 ranges = true

namespace Charset

/-- Whether the set holds a character. -/
def contains (s : Charset) (c : Char) : Bool :=
  covers c.toNat s.ranges

/-- A character is in the set if its code point is in one of the ranges. -/
theorem contains_iff {s : Charset} {c : Char} :
    s.contains c = true ↔ ∃ r ∈ s.ranges, r.low ≤ c.toNat ∧ c.toNat ≤ r.high :=
  covers_iff s.ascends

end Charset

end HartTimeline
