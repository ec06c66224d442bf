import HartTimeline.Text.DecimalDigit
import HartTimeline.Text.Search

/-!
# Verdicts on trial runs

A captured trial run passes if it shows a given success marker and no exception. An exception
shows as `Exception(code)`, its code being one or more decimal digits of any script.
-/

namespace HartTimeline

namespace ExceptionMarker

/-- How an exception marker starts. -/
def opening : Text := Text.of "Exception("

/-- The code of the exception marker that a text starts with, and the text after the marker. -/
def atStart? (t : Text) : Option (Text × Text) :=
  match Text.after? opening t with
  | none => none
  | some body =>
    match body.takeWhile Text.isDecimalDigit, body.dropWhile Text.isDecimalDigit with
    | c :: code, ')' :: rest => some (c :: code, rest)
    | _, _ => none

/-- A marker takes up some of the text. -/
theorem length_lt_of_atStart? {t code rest : Text} (h : atStart? t = some (code, rest)) :
    rest.length < t.length := by
  unfold atStart? at h
  split at h
  · exact absurd h (by simp)
  · rename_i body hbody
    have hdrop : (body.dropWhile Text.isDecimalDigit).length ≤ body.length :=
      (List.dropWhile_sublist _).length_le
    have hle : body.length ≤ t.length := by
      unfold Text.after? at hbody
      split at hbody
      · cases hbody; simp
      · exact absurd hbody (by simp)
    split at h
    · rename_i heq
      simp only [Option.some.injEq, Prod.mk.injEq] at h
      obtain ⟨-, rfl⟩ := h
      rw [heq] at hdrop
      simp only [List.length_cons] at hdrop
      omega
    · exact absurd h (by simp)

/-- The codes of the exception markers from left to right, each search going on after the marker
found before. -/
def codes (t : Text) : List Text :=
  match t with
  | [] => []
  | c :: cs =>
    match h : atStart? (c :: cs) with
    | some (code, rest) =>
      have := length_lt_of_atStart? h
      code :: codes rest
    | none => codes cs
termination_by t.length
decreasing_by
  · exact this
  · exact Nat.lt_succ_self cs.length

end ExceptionMarker

/-- What a captured trial run shows. -/
structure Trial where
  markerFound : Bool
  exceptions : List Text
deriving DecidableEq, Repr

namespace Trial

/-- What a captured output shows, given the success marker. -/
def ofOutput (output marker : Text) : Trial where
  markerFound := Text.occursIn marker output
  exceptions := ExceptionMarker.codes output

/-- Whether the run passed. -/
def passed (t : Trial) : Bool :=
  t.markerFound && t.exceptions.isEmpty

/-- The verdict in a word. -/
def status (t : Trial) : Text :=
  if t.passed then Text.of "OK" else Text.of "FAILED"

end Trial

end HartTimeline
