import HartTimeline.Text.Charset

/-!
# Blanks and words

White space is the `White_Space` property: ten ranges, twenty-five characters. The words of a
text are its maximal runs without white space.
-/

namespace HartTimeline.Text

/-- The characters with the `White_Space` property. -/
def whiteSpace : Charset :=
  ⟨[⟨0x9, 0xd⟩, ⟨0x20, 0x20⟩, ⟨0x85, 0x85⟩, ⟨0xa0, 0xa0⟩, ⟨0x1680, 0x1680⟩,
    ⟨0x2000, 0x200a⟩, ⟨0x2028, 0x2029⟩, ⟨0x202f, 0x202f⟩, ⟨0x205f, 0x205f⟩, ⟨0x3000, 0x3000⟩],
    by decide +kernel⟩

/-- A character that separates words. -/
def isBlank (c : Char) : Bool :=
  whiteSpace.contains c

/-- What separates words in ASCII text separates words here. -/
theorem isBlank_of_isWhitespace {c : Char} (h : c.isWhitespace = true) : isBlank c = true := by
  simp only [Char.isWhitespace, Bool.or_eq_true, decide_eq_true_eq] at h
  rcases h with ((rfl | rfl) | rfl) | rfl <;> decide

/-- The text without blanks at its ends. -/
def strip (t : Text) : Text :=
  ((t.dropWhile isBlank).reverse.dropWhile isBlank).reverse

/-- The non-empty pieces between blanks, in order. -/
def words (t : Text) : List Text :=
  (t.splitOnP isBlank).filter fun w => !w.isEmpty

/-! ## Splitting laws -/

@[simp] theorem words_nil : words [] = [] := rfl

/-- A blank ends whatever word stands before it. -/
theorem words_append_blank (s t : Text) {b : Char} (hb : isBlank b = true) :
    words (s ++ b :: t) = words s ++ words t := by
  simp [words, List.splitOnP_append_cons s t hb]

/-- A blank in front adds no word. -/
theorem words_blank_cons {b : Char} (t : Text) (hb : isBlank b = true) :
    words (b :: t) = words t :=
  words_append_blank [] t hb

/-- A non-empty text without blanks is one word. -/
theorem words_of_forall_not_blank {w : Text} (hne : w ≠ []) (hw : ∀ c ∈ w, isBlank c = false) :
    words w = [w] := by
  have hsplit : w.splitOnP isBlank = [w] := List.splitOnP_eq_singleton (by simpa using hw)
  simp [words, hsplit, hne]

end HartTimeline.Text
