import HartTimeline.Text.Decimal
import Mathlib.Data.List.TakeWhile
import Mathlib.Logic.Function.Basic

/-!
# Telling where a text ends

What is written one after the other can be read again if every part shows where it ends. A part may
leave that to the next one, as a numeral does, which ends where no digit follows. So it is said of a
way of writing values by which characters a text could go on.

Main statements: `delimited_decimal` for numerals, and `Delimited.flatMap` for what is repeated.
-/

namespace HartTimeline.Text

variable {α : Type} {more : Char → Prop} {write : α → Text} {r s : Text}

/-- A text does not begin with a character of a kind. -/
def StartsApart (more : Char → Prop) (r : Text) : Prop :=
  ∀ c ∈ r.head?, ¬more c

/-- Values are written so that the value and what follows can be told from the whole, as long as
what follows does not begin with a character by which the text of a value could go on. -/
def Delimited (more : Char → Prop) (write : α → Text) : Prop :=
  ∀ ⦃a b : α⦄ ⦃r s : Text⦄, StartsApart more r → StartsApart more s →
    write a ++ r = write b ++ s → a = b ∧ r = s

/-- No character goes on with a text that shows by itself where it ends. -/
def Never (_ : Char) : Prop := False

@[simp] theorem startsApart_nil : StartsApart more [] := nofun

@[simp] theorem startsApart_cons {c : Char} : StartsApart more (c :: r) ↔ ¬more c := by
  simp [StartsApart]

@[simp] theorem startsApart_never : StartsApart Never r := fun _ _ h => h

theorem StartsApart.append (hr : StartsApart more r) (hs : StartsApart more s) :
    StartsApart more (r ++ s) := by
  cases r with
  | nil => exact hs
  | cons c r => simpa using hr

/-- A text alone determines its value. -/
theorem Delimited.injective (h : Delimited more write) : Function.Injective write := by
  intro a b hab
  exact (h startsApart_nil startsApart_nil (congrArg (· ++ []) hab)).1

/-! ## Runs of characters -/

/-- A run of characters of a kind ends where another character follows. -/
theorem run_append_inj {p : Char → Bool} {l l' : Text} (hl : ∀ c ∈ l, p c = true)
    (hl' : ∀ c ∈ l', p c = true) (hr : StartsApart (p · = true) r) (hs : StartsApart (p · = true) s)
    (h : l ++ r = l' ++ s) : l = l' ∧ r = s := by
  have htake : ∀ {l r : Text}, (∀ c ∈ l, p c = true) → StartsApart (p · = true) r →
      (l ++ r).takeWhile p = l := by
    intro l r hl hr
    rw [List.takeWhile_append_of_pos hl]
    cases r with
    | nil => simp
    | cons c r => simp [List.takeWhile_cons_of_neg (startsApart_cons.1 hr)]
  have hrun : l = l' := by rw [← htake hl hr, h, htake hl' hs]
  subst hrun
  exact ⟨rfl, List.append_cancel_left h⟩

/-- A line ends at its line feed. -/
theorem line_append_inj {l l' : Text} (hl : '\n' ∉ l) (hl' : '\n' ∉ l')
    (h : l ++ '\n' :: r = l' ++ '\n' :: s) : l = l' ∧ r = s := by
  have hrun : ∀ l : Text, '\n' ∉ l → ∀ c ∈ l, (c != '\n') = true := by
    intro l hl c hc
    simpa using fun e : c = '\n' => hl (e ▸ hc)
  obtain ⟨rfl, hrest⟩ := run_append_inj (hrun l hl) (hrun l' hl') (by simp) (by simp) h
  exact ⟨rfl, (List.cons.inj hrest).2⟩

/-- A numeral ends where no digit follows. -/
theorem delimited_decimal : Delimited (·.isDigit = true) decimal := by
  intro m n r s hr hs h
  obtain ⟨hnumeral, hrest⟩ := run_append_inj (fun _ => isDigit_of_mem_decimal)
    (fun _ => isDigit_of_mem_decimal) hr hs h
  exact ⟨decimal_inj hnumeral, hrest⟩

theorem exists_decimal_eq_cons (n : Nat) : ∃ c cs, decimal n = c :: cs ∧ c.isDigit = true := by
  obtain ⟨c, cs, hn⟩ := List.exists_cons_of_ne_nil (decimal_ne_nil n)
  exact ⟨c, cs, hn, isDigit_of_mem_decimal (n := n) (by simp [hn])⟩

/-! ## Parts that are repeated or left out -/

/-- Texts that show where they end are told apart when one follows the other, up to the first that
cannot be one of them. -/
theorem Delimited.flatMap (hwrite : Delimited Never write)
    (hfirst : ∀ a, ∃ c ∈ (write a).head?, more c) :
    Delimited more (List.flatMap write) := by
  -- what begins with one of them is not what follows the last one
  have hapart : ∀ {a : α} {t u : Text}, StartsApart more u → write a ++ t ≠ u := by
    intro a t u hu h
    obtain ⟨c, hc, hmore⟩ := hfirst a
    refine hu c ?_ hmore
    rw [← h, List.head?_append, Option.mem_def.1 hc]
    rfl
  intro as
  induction as with
  | nil =>
    intro bs r s hr hs h
    cases bs with
    | nil => exact ⟨rfl, h⟩
    | cons b bs =>
      rw [List.flatMap_nil, List.nil_append, List.flatMap_cons, List.append_assoc] at h
      exact absurd h.symm (hapart hr)
  | cons a as ih =>
    intro bs r s hr hs h
    rw [List.flatMap_cons, List.append_assoc] at h
    cases bs with
    | nil => exact absurd h (hapart hs)
    | cons b bs =>
      rw [List.flatMap_cons, List.append_assoc] at h
      obtain ⟨rfl, hrest⟩ := hwrite startsApart_never startsApart_never h
      obtain ⟨rfl, hend⟩ := ih hr hs hrest
      exact ⟨rfl, hend⟩

/-- A text about a number that is left out for zero is told from what begins otherwise. -/
theorem Delimited.unlessZero {write : Nat → Text} (hwrite : Delimited Never write)
    (hfirst : ∀ n, ∃ c ∈ (write n).head?, more c) :
    Delimited more fun n => if n = 0 then [] else write n := by
  have hlist : ∀ n, (if n = 0 then [] else write n) =
      (if n = 0 then [] else [n]).flatMap write := by
    intro n
    split
    · rfl
    · rw [List.flatMap_singleton]
  intro m n r s hr hs h
  simp only [hlist] at h
  obtain ⟨hsame, hrest⟩ := hwrite.flatMap hfirst hr hs h
  refine ⟨?_, hrest⟩
  by_cases hm : m = 0 <;> by_cases hn : n = 0
  · rw [hm, hn]
  · simp [hm, hn] at hsame
  · simp [hm, hn] at hsame
  · simpa [hm, hn] using hsame

end HartTimeline.Text
