import HartTimeline.File.Fault
import HartTimeline.Text.Bytes

/-!
# Paths

A path is a text with slashes between its parts. Repeated slashes count once, `.` stays where it is
and `..` goes one directory up.
-/

namespace HartTimeline.Path

/-- The parts of a path. -/
def parts (path : Text) : List Text :=
  (path.splitOn '/').filter fun p => !p.isEmpty

/-- The path of a name in a directory. -/
def join (directory name : Text) : Text :=
  if directory.isEmpty then name
  else if directory.getLast? = some '/' then directory ++ name
  else directory ++ '/' :: name

/-- The parts without trailing dots, but for a dot in front of everything. -/
def dropDots (ps : List Text) : List Text :=
  match ps with
  | [] => []
  | first :: rest =>
    first :: (rest.reverse.dropWhile (· = ['.'])).reverse

/-- The parts of the directory that holds what a path names. -/
def parent (ps : List Text) : List Text :=
  dropDots (dropDots ps).dropLast

/-- A holder has fewer parts. -/
theorem length_parent_lt {ps : List Text} (h : ps ≠ []) : (parent ps).length < ps.length := by
  have hdots : ∀ qs : List Text, (dropDots qs).length ≤ qs.length := by
    intro qs
    cases qs with
    | nil => simp [dropDots]
    | cons q qs =>
      have :=
        (List.dropWhile_sublist (fun p : Text => decide (p = ['.'])) (l := qs.reverse)).length_le
      simpa [dropDots] using this
  have hpos : 0 < ps.length := List.length_pos_iff.2 h
  have h₁ := hdots ps
  have h₂ := hdots (dropDots ps).dropLast
  rw [List.length_dropLast] at h₂
  unfold parent
  omega

/-- What every system call checks of a path before it looks anything up. -/
def check (path : Text) : Except FileFault Unit :=
  if '\x00' ∈ path then .error .nulInName
  else if path.isEmpty then .error .notFound
  else if 4096 ≤ Text.byteLength path then .error .nameTooLong
  else .ok ()

end HartTimeline.Path
