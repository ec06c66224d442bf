import HartTimeline.Text.Decimal

/-!
# What numerals denote

A numeral is a row of digits, with a sign before it or not. The signed numerals are read here by
what they denote, which the sign and the digits alone decide.

Main statements: `signed?_eq_some_iff`, a text is read as a number exactly if it denotes it, and
`denotes_signedDecimal`, every number is denoted by what is written for it.
-/

namespace HartTimeline.Text

/-- One or more ASCII digits. -/
def IsDigits (ds : Text) : Prop :=
  ds ≠ [] ∧ ∀ c ∈ ds, c.isDigit = true

/-- A numeral and the integer that it denotes. -/
inductive Denotes : Text → Int → Prop
  /-- Digits alone. -/
  | bare {ds : Text} (digits : IsDigits ds) : Denotes ds (Nat.ofDigitChars 10 ds 0)
  /-- Digits after a plus sign, which changes nothing. -/
  | plus {ds : Text} (digits : IsDigits ds) : Denotes ('+' :: ds) (Nat.ofDigitChars 10 ds 0)
  /-- Digits after a minus sign. -/
  | minus {ds : Text} (digits : IsDigits ds) : Denotes ('-' :: ds) (-Nat.ofDigitChars 10 ds 0)

variable {t ds : Text} {n m : Int}

/-! ## Reading digits -/

theorem digits?_of_isDigits (h : IsDigits ds) : digits? ds = some (Nat.ofDigitChars 10 ds 0) :=
  if_pos ⟨h.1, List.all_eq_true.2 h.2⟩

theorem isDigits_of_digits? {k : Nat} (h : digits? ds = some k) :
    IsDigits ds ∧ k = Nat.ofDigitChars 10 ds 0 := by
  unfold digits? at h
  split at h
  · rename_i hdigits
    exact ⟨⟨hdigits.1, List.all_eq_true.1 hdigits.2⟩, (Option.some.inj h).symm⟩
  · cases h

theorem isDigits_decimal (k : Nat) : IsDigits (decimal k) :=
  ⟨decimal_ne_nil k, fun _ hc => isDigit_of_mem_decimal hc⟩

theorem ofDigitChars_decimal (k : Nat) : Nat.ofDigitChars 10 (decimal k) 0 = k := by
  have hread := digits?_of_isDigits (isDigits_decimal k)
  rw [digits?_decimal] at hread
  exact (Option.some.inj hread).symm

/-! ## Reading numerals -/

theorem signed?_plus (ds : Text) : signed? ('+' :: ds) = (digits? ds).map Int.ofNat := by
  cases h : digits? ds <;> simp [signed?, h]

theorem signed?_minus (ds : Text) :
    signed? ('-' :: ds) = (digits? ds).map fun k => -Int.ofNat k := by
  cases h : digits? ds <;> simp [signed?, h]

/-- Without a sign the whole text is read for its digits. -/
theorem signed?_bare (hplus : t.head? ≠ some '+') (hminus : t.head? ≠ some '-') :
    signed? t = (digits? t).map Int.ofNat := by
  unfold signed?
  split
  · exact absurd rfl hplus
  · exact absurd rfl hminus
  · cases h : digits? t <;> simp

theorem denotes_of_signed? (h : signed? t = some n) : Denotes t n := by
  by_cases hplus : t.head? = some '+'
  · obtain ⟨ds, rfl⟩ := List.head?_eq_some_iff.1 hplus
    rw [signed?_plus] at h
    obtain ⟨k, hk, rfl⟩ := Option.map_eq_some_iff.1 h
    obtain ⟨hdigits, rfl⟩ := isDigits_of_digits? hk
    exact .plus hdigits
  by_cases hminus : t.head? = some '-'
  · obtain ⟨ds, rfl⟩ := List.head?_eq_some_iff.1 hminus
    rw [signed?_minus] at h
    obtain ⟨k, hk, rfl⟩ := Option.map_eq_some_iff.1 h
    obtain ⟨hdigits, rfl⟩ := isDigits_of_digits? hk
    exact .minus hdigits
  rw [signed?_bare hplus hminus] at h
  obtain ⟨k, hk, rfl⟩ := Option.map_eq_some_iff.1 h
  obtain ⟨hdigits, rfl⟩ := isDigits_of_digits? hk
  exact .bare hdigits

/-- Digits begin with no sign. -/
theorem IsDigits.head?_ne {c : Char} (h : IsDigits ds) (hc : c.isDigit = false) :
    ds.head? ≠ some c := by
  intro hhead
  rw [h.2 c (List.mem_of_mem_head? hhead)] at hc
  cases hc

theorem signed?_of_denotes (h : Denotes t n) : signed? t = some n := by
  cases h with
  | bare digits =>
    rw [signed?_bare (digits.head?_ne (by decide)) (digits.head?_ne (by decide)),
      digits?_of_isDigits digits]
    rfl
  | plus digits =>
    rw [signed?_plus, digits?_of_isDigits digits]
    rfl
  | minus digits =>
    rw [signed?_minus, digits?_of_isDigits digits]
    rfl

/-- A text is read as the integer that it denotes, and as no other. -/
theorem signed?_eq_some_iff : signed? t = some n ↔ Denotes t n :=
  ⟨denotes_of_signed?, signed?_of_denotes⟩

/-- A numeral denotes one number only. -/
theorem Denotes.unique (hn : Denotes t n) (hm : Denotes t m) : n = m := by
  rw [← signed?_eq_some_iff] at hn hm
  exact Option.some.inj (hn.symm.trans hm)

/-- What sixty-four bits cannot hold is refused. -/
theorem signed64?_eq_some_iff :
    signed64? t = some n ↔ Denotes t n ∧ int64Min ≤ n ∧ n ≤ int64Max := by
  unfold signed64?
  rw [Option.filter_eq_some_iff, signed?_eq_some_iff, Bool.and_eq_true, decide_eq_true_eq,
    decide_eq_true_eq]

theorem signed64?_eq_none_iff :
    signed64? t = none ↔ ∀ n, Denotes t n → n < int64Min ∨ int64Max < n := by
  rw [Option.eq_none_iff_forall_ne_some]
  constructor
  · intro h n hn
    have hbeyond : ¬(int64Min ≤ n ∧ n ≤ int64Max) := by
      intro hrange
      exact h n (signed64?_eq_some_iff.2 ⟨hn, hrange⟩)
    omega
  · intro h n hread
    obtain ⟨hn, hlow, hhigh⟩ := signed64?_eq_some_iff.1 hread
    have hrange := h n hn
    omega

/-- What is written for a number denotes it. -/
theorem denotes_signedDecimal (n : Int) : Denotes (signedDecimal n) n := by
  cases n with
  | ofNat k =>
    have hdenotes := Denotes.bare (isDigits_decimal k)
    rw [ofDigitChars_decimal] at hdenotes
    exact hdenotes
  | negSucc k =>
    have hdenotes := Denotes.minus (isDigits_decimal (k + 1))
    rw [ofDigitChars_decimal] at hdenotes
    exact hdenotes

end HartTimeline.Text
