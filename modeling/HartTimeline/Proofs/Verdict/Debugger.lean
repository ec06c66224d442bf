import HartTimeline.Verdict.Debugger
import Mathlib.Order.BoundedOrder.Basic
import Mathlib.Order.MinMax

/-!
# Transcripts line by line

A transcript is as bad as the worst of its lines: no pass is news beside one failure, and without a
pass there is no news at all. A marker stands on one line, so nothing is found or lost where lines
are joined.

Main statement: `ofTranscript_joined`, the verdict on lines is the maximum of the verdicts on each.
-/

namespace HartTimeline

namespace DebuggerVerdict

/-! ## The order of the verdicts -/

/-- How bad the news is. -/
def severity : DebuggerVerdict → Nat
  | missingOk => 0
  | passed => 1
  | failed => 2

theorem severity_injective : Function.Injective severity := by
  intro v w h
  cases v <;> cases w <;> simp [severity] at h ⊢

instance : LinearOrder DebuggerVerdict :=
  LinearOrder.lift' severity severity_injective

instance : OrderBot DebuggerVerdict where
  bot := missingOk
  bot_le v := Nat.zero_le v.severity

theorem le_failed (v : DebuggerVerdict) : v ≤ failed := by
  cases v <;> decide

/-- The worst of some verdicts; no verdict at all is no news. -/
def worst (vs : List DebuggerVerdict) : DebuggerVerdict :=
  vs.foldr max missingOk

/-- The worst verdict is the least one that none is worse than. -/
theorem worst_le_iff {vs : List DebuggerVerdict} {bound : DebuggerVerdict} :
    worst vs ≤ bound ↔ ∀ v ∈ vs, v ≤ bound := by
  induction vs with
  | nil =>
    have hbot : missingOk ≤ bound := bot_le
    simpa [worst] using hbot
  | cons v vs ih => rw [worst, List.foldr_cons, max_le_iff, List.forall_mem_cons, ← ih, worst]

/-- More verdicts can only be worse. -/
theorem worst_le_of_subset {vs ws : List DebuggerVerdict} (h : vs ⊆ ws) : worst vs ≤ worst ws :=
  worst_le_iff.2 fun _ hv => worst_le_iff.1 le_rfl _ (h hv)

/-! ## The verdict on lines -/

/-- The verdict on two texts with a line end between them is the worse one. -/
theorem ofTranscript_append_feed (a b : Text) :
    ofTranscript (a ++ '\n' :: b) = max (ofTranscript a) (ofTranscript b) := by
  have hok : '\n' ∉ okMarker := by decide
  have hfailed : '\n' ∉ failedMarker := by decide
  simp only [ofTranscript, Text.occursIn_append_cons hok, Text.occursIn_append_cons hfailed]
  cases Text.occursIn failedMarker a <;> cases Text.occursIn failedMarker b <;>
    cases Text.occursIn okMarker a <;> cases Text.occursIn okMarker b <;> rfl

theorem ofTranscript_intercalate (ls : List Text) :
    ofTranscript (['\n'].intercalate ls) = worst (ls.map ofTranscript) := by
  induction ls with
  | nil => rfl
  | cons l ls ih =>
    cases ls with
    | nil =>
      have hbot : max (ofTranscript l) missingOk = ofTranscript l := max_eq_left bot_le
      rw [List.intercalate_singleton, List.map_singleton, worst, List.foldr_cons, List.foldr_nil,
        hbot]
    | cons l' ls =>
      rw [List.intercalate_cons_cons, List.append_assoc, List.singleton_append,
        ofTranscript_append_feed, ih]
      rfl

/-- The verdict on joined lines is the maximum of the verdicts on the single lines, and on no line
at all that the pass is missing; every transcript is judged so by its lines. So the verdict does not
depend on the order of the lines or on how often one stands among them. More lines after the others
undo no failure, and a pass only by a failure; and the verdict on two texts with a line feed between
them is the maximum of the two. -/
theorem ofTranscript_joined (ls : List Text) :
    (missingOk < passed ∧ passed < failed) ∧
    ofTranscript (['\n'].intercalate ls) = (ls.map ofTranscript).foldr max missingOk ∧
    ofTranscript (['\n'].intercalate []) = missingOk ∧
    (∀ t : Text, ofTranscript t = ((t.splitOn '\n').map ofTranscript).foldr max missingOk) ∧
    (∀ ls' : List Text, (∀ l, l ∈ ls' ↔ l ∈ ls) →
      ofTranscript (['\n'].intercalate ls') = ofTranscript (['\n'].intercalate ls)) ∧
    (∀ more : List Text,
      (ofTranscript (['\n'].intercalate ls) = failed →
        ofTranscript (['\n'].intercalate (ls ++ more)) = failed) ∧
      (ofTranscript (['\n'].intercalate ls) = passed →
        ofTranscript (['\n'].intercalate (ls ++ more)) ≠ missingOk)) ∧
    ∀ a b : Text, ofTranscript (a ++ '\n' :: b) = max (ofTranscript a) (ofTranscript b) := by
  -- lines that stand among others are no worse news than these
  have hmono : ∀ {ls ls' : List Text}, ls ⊆ ls' →
      ofTranscript (['\n'].intercalate ls) ≤ ofTranscript (['\n'].intercalate ls') := by
    intro ls ls' hsub
    rw [ofTranscript_intercalate, ofTranscript_intercalate]
    exact worst_le_of_subset (List.map_subset ofTranscript hsub)
  refine ⟨by decide, ofTranscript_intercalate ls, rfl, fun t => ?_, fun ls' h => ?_,
    fun more => ?_, ofTranscript_append_feed⟩
  · have hlines := ofTranscript_intercalate (t.splitOn '\n')
    rwa [List.intercalate_splitOn] at hlines
  · exact le_antisymm (hmono fun l hl => (h l).1 hl) (hmono fun l hl => (h l).2 hl)
  · have hmore := hmono (List.subset_append_left ls more)
    constructor
    · intro hfailed
      rw [hfailed] at hmore
      exact le_antisymm (le_failed _) hmore
    · intro hpassed hmissing
      rw [hpassed, hmissing] at hmore
      exact absurd hmore (by decide)

/-- A failure that is broken off at a line end does not count, and a whole one outweighs the pass
wherever it stands. -/
theorem ofTranscript_joined_of_brokenMarker :
    let broken := [Text.of "<OK>", Text.of "step <FAI", Text.of "LED>"]
    let whole := [Text.of "at 0x10: <FAILED>"]
    ofTranscript (['\n'].intercalate broken) = passed ∧
      ofTranscript (['\n'].intercalate (whole ++ broken)) = failed ∧
      ofTranscript (['\n'].intercalate (broken ++ whole ++ whole)) = failed := by
  intro broken whole
  have hfailed : ofTranscript (['\n'].intercalate whole) = failed := by decide
  obtain ⟨-, hbroken, -⟩ := ofTranscript_joined broken
  obtain ⟨-, -, -, -, -, hmore, -⟩ := ofTranscript_joined whole
  obtain ⟨-, -, -, -, hsame, -⟩ := ofTranscript_joined (whole ++ broken)
  have hfirst := (hmore broken).1 hfailed
  refine ⟨hbroken.trans (by decide), hfirst, (hsame _ fun l => ?_).trans hfirst⟩
  rw [List.mem_append, List.mem_append, List.mem_append, or_assoc, or_self, or_comm]

end DebuggerVerdict

end HartTimeline
