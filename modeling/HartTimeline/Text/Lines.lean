import HartTimeline.Text.Charset

/-!
# Lines

A line is ended by a line feed, and one carriage return directly before that line feed belongs
to the ending. A last line without a line feed counts if it is not empty, and keeps its carriage
return.
-/

namespace HartTimeline.Text

/-- The text without one carriage return at its end. -/
def dropReturn (l : Text) : Text :=
  if l.getLast? = some '\r' then l.dropLast else l

/-- The lines that a split at line feeds leaves: all pieces but the last one were ended by a
line feed, and the last one counts if it is not empty. -/
def linesOfPieces : List Text → List Text
  | [] => []
  | [last] => if last.isEmpty then [] else [last]
  | piece :: rest => dropReturn piece :: linesOfPieces rest

/-- The lines of a text, without their endings. -/
def lines (t : Text) : List Text :=
  linesOfPieces (t.splitOn '\n')

/-! ## Reading off the first line -/

@[simp] theorem lines_nil : lines [] = [] := rfl

/-- A line feed ends the first line. -/
theorem lines_append_feed {l : Text} (t : Text) (hl : '\n' ∉ l) :
    lines (l ++ '\n' :: t) = dropReturn l :: lines t := by
  rw [lines, List.splitOn_append_cons_self, List.splitOn_eq_singleton hl, List.singleton_append]
  have hne : t.splitOn '\n' ≠ [] := List.splitOn_ne_nil _ _
  cases h : t.splitOn '\n' with
  | nil => exact absurd h hne
  | cons piece rest => rw [lines, h]; rfl

/-- What no line feed ends is one line, unless it is empty. -/
theorem lines_of_not_mem {l : Text} (hl : '\n' ∉ l) :
    lines l = if l.isEmpty then [] else [l] := by
  rw [lines, List.splitOn_eq_singleton hl]; rfl

/-- Induction on a text line by line: a last line that no line feed ends, and a line that one
ends. -/
theorem induction_by_lines {motive : Text → Prop} (last : ∀ l, '\n' ∉ l → motive l)
    (line : ∀ l t, '\n' ∉ l → motive t → motive (l ++ '\n' :: t)) (t : Text) : motive t := by
  by_cases hmem : '\n' ∈ t
  · obtain ⟨l, rest, hsplit, hl⟩ := List.eq_append_cons_of_mem hmem
    have hshorter : rest.length < t.length := by
      rw [hsplit, List.length_append, List.length_cons]
      omega
    rw [hsplit]
    exact line l rest hl (induction_by_lines last line rest)
  · exact last t hmem
termination_by t.length

/-- A text that is cut at a line end has the lines of its two parts. -/
theorem lines_append {p : Text} (hp : p = [] ∨ p.getLast? = some '\n') (q : Text) :
    lines (p ++ q) = lines p ++ lines q := by
  induction p using induction_by_lines with
  | last l hl =>
    have hnil : l = [] := hp.resolve_right fun h => hl (List.mem_of_getLast? h)
    rw [hnil, List.nil_append, lines_nil, List.nil_append]
  | line l t hl ih =>
    -- what follows the first line is cut at a line end, too
    have ht : t = [] ∨ t.getLast? = some '\n' := by
      cases t with
      | nil => exact .inl rfl
      | cons c t => simpa [List.getLast?_append] using hp
    rw [List.append_assoc, List.cons_append, lines_append_feed _ hl, lines_append_feed _ hl, ih ht,
      List.cons_append]

end HartTimeline.Text
