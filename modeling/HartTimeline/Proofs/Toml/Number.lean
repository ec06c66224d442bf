import HartTimeline.Toml.DateTime
import HartTimeline.Toml.Number
import HartTimeline.Proofs.Text.Delimited
import HartTimeline.Proofs.Text.Numeral
import Mathlib.Data.List.Basic

/-!
# How integers are written in TOML

A number without a sign is its decimal numeral. A value may begin like a date or a float and only
then turn out to be an integer, so that these two readers have to refuse it first.

Main statements: `integer_decimal`, and `dateTime?_decimal` and `float_decimal` for the readers that
come before.
-/

namespace HartTimeline.Toml

open Text (decimal isDigit_of_mem_decimal exists_decimal_eq_cons)

variable {ds rest t u : Text} {c : Char} {n k limit : Nat}

/-- What a value may be followed by: blanks, a comment, the end of the line or of the text. -/
def EndsValue (rest : Text) : Prop :=
  ∀ c ∈ rest.head?, c ∈ [' ', '\t', '#', '\n', '\r']

theorem EndsValue.head?_ne (h : EndsValue rest) (hc : c ∉ [' ', '\t', '#', '\n', '\r']) :
    rest.head? ≠ some c :=
  fun hhead => hc (h c hhead)

theorem EndsValue.isDigit_eq_false (h : EndsValue rest) (hc : rest.head? = some c) :
    c.isDigit = false := by
  have hall : ∀ c ∈ [' ', '\t', '#', '\n', '\r'], Char.isDigit c = false := by simp
  exact hall c (h c hc)

/-! ## Digits -/

theorem digitRun_append (hds : ∀ c ∈ ds, c.isDigit = true) (hrest : EndsValue rest) :
    digitRun Char.isDigit (ds ++ rest) = (ds, rest) := by
  induction ds with
  | nil =>
    cases rest with
    | nil => rfl
    | cons c rest =>
      have hdigit : c.isDigit = false := hrest.isDigit_eq_false rfl
      have hunderscore : c ≠ '_' := by
        rintro rfl
        exact hrest.head?_ne (by decide) rfl
      rw [List.nil_append, digitRun.eq_def]
      split
      · rename_i heq
        cases heq
      · rename_i heq
        exact absurd (List.cons.inj heq).1 hunderscore
      · rename_i heq
        cases heq
        rw [if_neg (by simp [hdigit])]
  | cons c ds ih =>
    obtain ⟨hc, hds⟩ := List.forall_mem_cons.1 hds
    have hunderscore : c ≠ '_' := by
      rintro rfl
      cases hc
    rw [List.cons_append, digitRun.eq_def]
    split
    · rename_i heq
      cases heq
    · rename_i heq
      exact absurd (List.cons.inj heq).1 hunderscore
    · rename_i heq
      cases heq
      rw [if_pos hc, ih hds]

/-- A numeral begins with a digit. -/
theorem isDigit_of_decimal_append_eq (h : decimal n ++ rest = c :: t) : c.isDigit = true := by
  obtain ⟨d, ds, hcons, hd⟩ := exists_decimal_eq_cons n
  rw [hcons] at h
  rw [← (List.cons.inj h).1]
  exact hd

/-- The numeral of a number other than 0 does not begin with a zero. -/
theorem head?_decimal_ne (h : n ≠ 0) : (decimal n).head? ≠ some '0' := by
  induction n using Nat.strongRecOn with
  | _ n ih =>
    rw [decimal]
    by_cases hsmall : n < 10
    · rw [Nat.toDigits_of_lt_base hsmall]
      have hdigit : ∀ n < 10, n ≠ 0 → Nat.digitChar n ≠ '0' := by decide
      simpa using hdigit n hsmall h
    · have hfront := ih (n / 10) (by omega) (by omega)
      obtain ⟨c, cs, hcons, -⟩ := exists_decimal_eq_cons (n / 10)
      rw [hcons] at hfront
      rw [decimal] at hcons
      rw [Nat.toDigits_of_base_le (by decide) (Nat.le_of_not_lt hsmall), hcons]
      exact hfront

theorem wholeDigits_decimal (hrest : EndsValue rest) :
    wholeDigits (decimal n ++ rest) = some (decimal n, rest) := by
  by_cases hzero : n = 0
  · subst hzero
    rfl
  · obtain ⟨c, cs, hcons, hc⟩ := exists_decimal_eq_cons n
    have hds : ∀ c ∈ decimal n, c.isDigit = true := fun _ => isDigit_of_mem_decimal
    have hrun := digitRun_append hds hrest
    have hfirst := head?_decimal_ne hzero
    rw [hcons] at hrun hfirst ⊢
    rw [List.cons_append] at hrun ⊢
    rw [wholeDigits]
    · rw [digits, if_pos hc, hrun]
    · simpa using hfirst

theorem ofDigits_decimal (n : Nat) : ofDigits 10 (decimal n) = n := by
  have hvalue : ofDigits 10 (decimal n) = Nat.ofDigitChars 10 (decimal n) 0 := by
    apply List.foldl_ext
    intro value c hc
    rw [digitValue, if_pos (isDigit_of_mem_decimal hc), Nat.mul_comm]
  rw [hvalue, Text.ofDigitChars_decimal]

/-! ## What is not an integer -/

theorem expect?_eq_none (h : t.head? ≠ some c) : expect? c t = none := by
  cases t with
  | nil => rfl
  | cons d t =>
    have hd : d ≠ c := fun heq => h (congrArg some heq)
    rw [expect?, if_neg hd]

/-- Where a fixed number of digits has been read from a numeral, a digit comes next or its end. -/
theorem expect?_of_fixedNumber (hds : ∀ c ∈ ds, c.isDigit = true) (hrest : EndsValue rest)
    (h : fixedNumber k limit (ds ++ rest) = some (n, t)) (hc : c.isDigit = false)
    (hend : c ∉ [' ', '\t', '#', '\n', '\r']) : expect? c t = none := by
  simp only [fixedNumber] at h
  split at h
  case isFalse => cases h
  rename_i hread
  obtain ⟨-, rfl⟩ := Prod.mk.inj (Option.some.inj h)
  rw [Bool.and_eq_true, Bool.and_eq_true, List.all_eq_true] at hread
  have hdigits : ∀ d ∈ (ds ++ rest).take k, d.isDigit = true := hread.1.2
  apply expect?_eq_none
  rw [List.head?_drop]
  intro hnext
  -- the digits end before the numeral does, or with it, because its end is no digit
  rcases Nat.lt_trichotomy k ds.length with hk | hk | hk
  · rw [List.getElem?_append_left hk] at hnext
    rw [hds c (List.mem_of_getElem? hnext)] at hc
    cases hc
  · rw [hk, List.getElem?_append_right (Nat.le_refl _), Nat.sub_self,
      ← List.head?_eq_getElem?] at hnext
    exact hrest.head?_ne hend hnext
  · cases hfirst : rest.head? with
    | none =>
      rw [List.head?_eq_none_iff.1 hfirst, List.append_nil,
        List.getElem?_eq_none (Nat.le_of_lt hk)] at hnext
      cases hnext
    | some d =>
      have hd := hrest.isDigit_eq_false hfirst
      obtain ⟨rest, rfl⟩ := List.head?_eq_some_iff.1 hfirst
      have hmem : d ∈ (ds ++ d :: rest).take k := by
        rw [List.take_append, List.mem_append]
        obtain ⟨j, hj⟩ : ∃ j, k - ds.length = j + 1 := ⟨k - ds.length - 1, by omega⟩
        rw [hj]
        exact Or.inr List.mem_cons_self
      rw [hdigits d hmem] at hd
      cases hd

theorem dateTime?_decimal (n : Nat) (hrest : EndsValue rest) :
    dateTime? (decimal n ++ rest) = none := by
  have hds : ∀ c ∈ decimal n, c.isDigit = true := fun _ => isDigit_of_mem_decimal
  have hdate : date? (decimal n ++ rest) = none := by
    rw [date?]
    cases h : fixedNumber 4 9999 (decimal n ++ rest) with
    | none => rfl
    | some read => simp [expect?_of_fixedNumber hds hrest h (c := '-')]
  have htime : time? (decimal n ++ rest) = none := by
    rw [time?]
    cases h : fixedNumber 2 23 (decimal n ++ rest) with
    | none => rfl
    | some read => simp [expect?_of_fixedNumber hds hrest h (c := ':')]
  rw [dateTime?, hdate, htime]

/-- A numeral has no sign. -/
theorem sign_decimal (n : Nat) (rest : Text) :
    sign (decimal n ++ rest) = (false, decimal n ++ rest) := by
  rw [sign.eq_def]
  split
  · rename_i heq
    cases isDigit_of_decimal_append_eq heq
  · rename_i heq
    cases isDigit_of_decimal_append_eq heq
  · rfl

theorem exponent_of_endsValue (hrest : EndsValue rest) : exponent rest = none := by
  cases rest with
  | nil => rfl
  | cons c rest =>
    have hall : ∀ c ∈ [' ', '\t', '#', '\n', '\r'], ¬(c = 'e' ∨ c = 'E') := by simp
    rw [exponent, if_neg (hall c (hrest c rfl))]

theorem floatTail_of_endsValue (hrest : EndsValue rest) : floatTail rest = none := by
  rw [floatTail.eq_def]
  split
  · exact absurd rfl (hrest.head?_ne (by decide))
  · rw [exponent_of_endsValue hrest]
    rfl

theorem float_decimal (n : Nat) (hrest : EndsValue rest) : float (decimal n ++ rest) = none := by
  simp only [float, sign_decimal]
  split
  · rename_i heq
    cases isDigit_of_decimal_append_eq heq
  · rename_i heq
    cases isDigit_of_decimal_append_eq heq
  · simp only [wholeDigits_decimal hrest, floatTail_of_endsValue hrest]

/-! ## Integers -/

theorem decimalInteger_decimal (hn : (n : Int) ≤ Text.int64Max) (hrest : EndsValue rest) :
    decimalInteger (decimal n ++ rest) = some ((n : Int), rest) := by
  have hlow : Text.int64Min ≤ (n : Int) := by
    simp only [Text.int64Min]
    omega
  simp only [decimalInteger, sign_decimal, wholeDigits_decimal hrest, ofDigits_decimal]
  simp [integerOf?, hlow, hn]

/-- Only the numeral of 0 begins with a zero, so that no base follows it. -/
theorem mem_of_decimal_append_eq (hrest : EndsValue rest)
    (h : decimal n ++ rest = '0' :: c :: t) : c ∈ [' ', '\t', '#', '\n', '\r'] := by
  by_cases hzero : n = 0
  · subst hzero
    obtain rfl : rest = c :: t := (List.cons.inj h).2
    exact hrest c rfl
  · obtain ⟨d, ds, hcons, -⟩ := exists_decimal_eq_cons n
    have hfirst := head?_decimal_ne hzero
    rw [hcons] at h hfirst
    exact absurd (congrArg some (List.cons.inj h).1) hfirst

theorem integer_decimal (hn : (n : Int) ≤ Text.int64Max) (hrest : EndsValue rest) :
    integer (decimal n ++ rest) = some ((n : Int), rest) := by
  rw [← decimalInteger_decimal hn hrest, integer.eq_def]
  split
  · rename_i heq
    exact absurd (mem_of_decimal_append_eq hrest heq) (by decide)
  · rename_i heq
    exact absurd (mem_of_decimal_append_eq hrest heq) (by decide)
  · rename_i heq
    exact absurd (mem_of_decimal_append_eq hrest heq) (by decide)
  · rfl

end HartTimeline.Toml
