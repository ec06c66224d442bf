import HartTimeline.Run

/-!
# Line endings

A log is read line by line, and how its lines are ended does not matter: a carriage return before a
line feed belongs to the ending, and the last line needs none.

Main statement: `ofLog_of_line_endings`.
-/

namespace HartTimeline

namespace Text

variable {l t : Text}

/-- The rest of a text from a position on, after the character before it, with a carriage return put
before each chosen line feed that has none. -/
def putReturnsFrom (chosen : Nat → Bool) (i : Nat) (before : Option Char) : Text → Text
  | [] => []
  | c :: t =>
    let rest := putReturnsFrom chosen (i + 1) (some c) t
    if c = '\n' ∧ before ≠ some '\r' ∧ chosen i then '\r' :: c :: rest else c :: rest

/-- A text with a carriage return put before some of its line feeds, namely those at the chosen
positions; but not before a line feed that has one already. -/
def putReturns (chosen : Nat → Bool) (t : Text) : Text :=
  putReturnsFrom chosen 0 none t

/-- Nothing is put into a line. -/
theorem putReturnsFrom_append (chosen : Nat → Bool) (i : Nat) (before : Option Char)
    (hl : '\n' ∉ l) (t : Text) :
    putReturnsFrom chosen i before (l ++ t) =
      l ++ putReturnsFrom chosen (i + l.length) (l.getLast?.or before) t := by
  induction l generalizing i before with
  | nil => rfl
  | cons c l ih =>
    rw [List.mem_cons, not_or] at hl
    have hc : ¬(c = '\n' ∧ before ≠ some '\r' ∧ chosen i) := fun h => hl.1 h.1.symm
    rw [List.cons_append, putReturnsFrom, if_neg hc, ih _ _ hl.2, List.getLast?_cons,
      List.length_cons, List.cons_append]
    congr 3
    · omega
    · cases l.getLast? <;> rfl

theorem dropReturn_concat (l : Text) : dropReturn (l ++ ['\r']) = l := by
  rw [dropReturn, if_pos List.getLast?_concat, List.dropLast_concat]

/-- Carriage returns before line feeds change no line. -/
theorem lines_putReturnsFrom (chosen : Nat → Bool) (i : Nat) (before : Option Char)
    (hbefore : before ≠ some '\r') (t : Text) :
    lines (putReturnsFrom chosen i before t) = lines t := by
  induction t using induction_by_lines generalizing i before with
  | last l hl =>
    have hline := putReturnsFrom_append chosen i before hl []
    rw [List.append_nil] at hline
    rw [hline, putReturnsFrom, List.append_nil]
  | line l t hl ih =>
    have hrest := ih (i + l.length + 1) (some '\n') (by decide)
    rw [putReturnsFrom_append chosen i before hl, putReturnsFrom, lines_append_feed t hl]
    split
    · rename_i hput
      have hend : l.getLast? ≠ some '\r' := by
        intro h
        rw [h] at hput
        exact hput.2.1 rfl
      have hl' : '\n' ∉ l ++ ['\r'] := by simpa using hl
      rw [List.append_cons, lines_append_feed _ hl', dropReturn_concat, dropReturn, if_neg hend,
        hrest]
    · rw [lines_append_feed _ hl, hrest]

theorem lines_putReturns (chosen : Nat → Bool) (t : Text) : lines (putReturns chosen t) = lines t :=
  lines_putReturnsFrom chosen 0 none nofun t

/-- A line feed after the last line adds no line. -/
theorem lines_concat_feed (hne : t ≠ []) (hfeed : t.getLast? ≠ some '\n')
    (hreturn : t.getLast? ≠ some '\r') : lines (t ++ ['\n']) = lines t := by
  induction t using induction_by_lines with
  | last l hl =>
    rw [lines_append_feed [] hl, lines_of_not_mem hl, dropReturn, if_neg hreturn, lines_nil,
      if_neg (by simpa using hne)]
  | line l t hl ih =>
    have hnet : t ≠ [] := by
      rintro rfl
      exact hfeed List.getLast?_concat
    have hlast : (l ++ '\n' :: t).getLast? = t.getLast? := by
      obtain ⟨c, t, rfl⟩ := List.exists_cons_of_ne_nil hnet
      rw [List.append_cons, List.getLast?_append, List.getLast?_cons, Option.some_or]
    rw [hlast] at hfeed hreturn
    rw [List.append_assoc, List.cons_append, lines_append_feed _ hl, lines_append_feed _ hl,
      ih hnet hfeed hreturn]

end Text

namespace Report

open Text (putReturns)

/-- How the lines of a log are ended does not matter. A log with carriage returns put before any of
its line feeds that have none gives the same streams and counters, or is refused for the same fault,
with the same line number and the same text; and so does a log whose last line is not ended when a
line feed is put after it. -/
theorem ofLog_of_line_endings (cores : Nat) (skipBlank : Bool) (log : Text) :
    (∀ chosen : Nat → Bool,
      ofLog cores skipBlank (putReturns chosen log) = ofLog cores skipBlank log) ∧
    (log ≠ [] → log.getLast? ≠ some '\n' → log.getLast? ≠ some '\r' →
      ofLog cores skipBlank (log ++ ['\n']) = ofLog cores skipBlank log) := by
  constructor
  · intro chosen
    rw [ofLog, ofLog, Text.lines_putReturns]
  · intro hne hfeed hreturn
    rw [ofLog, ofLog, Text.lines_concat_feed hne hfeed hreturn]

/-- A log with a carriage return within a line, line feeds with and without one, and no line feed at
the end. -/
def mixedEndings : Text :=
  Text.of "riscv: hart:1, a\rb\nmhartid 1\r\n\npc 10\npc 14"

/-- With all line feeds made alike, or with one more at the end, it is read as it was. -/
theorem ofLog_of_mixedEndings :
    let alike := Text.of "riscv: hart:1, a\rb\r\nmhartid 1\r\n\r\npc 10\r\npc 14"
    putReturns (fun _ => true) mixedEndings = alike ∧
      ofLog 1 true alike = ofLog 1 true mixedEndings ∧
      ofLog 1 true (mixedEndings ++ ['\n']) = ofLog 1 true mixedEndings ∧
      (ofLog 1 true mixedEndings).toOption.map (fun report => report.timeline.globalStream) =
        some (Text.of "riscv: hart:1, a\rb\n\nCore 0:\nmhartid = 1\npc = 10\n\n") := by
  intro alike
  have halike : putReturns (fun _ => true) mixedEndings = alike := by decide +kernel
  obtain ⟨hreturns, hfeed⟩ := ofLog_of_line_endings 1 true mixedEndings
  refine ⟨halike, ?_, ?_, by decide +kernel⟩
  · rw [← halike]
    exact hreturns fun _ => true
  · exact hfeed (by decide +kernel) (by decide +kernel) (by decide +kernel)

end Report

end HartTimeline
