import HartTimeline.Proofs.Run.Reads

/-!
# A recording without some snapshots

From a recording are taken the register lines of every closed snapshot that belongs to none of some
cores. All other lines stay: traces, blank lines and the lines of the snapshot that is never closed.

Main statement: `removed_iff`, whether a register line is taken away is decided by the snapshot that
is open after it, and `keeps_of_closes` and `keeps_of_not_closes` follow that snapshot from line to
line.
-/

namespace HartTimeline

namespace Recording

/-- Whether the snapshot that line `k` closes belongs to one of some cores. -/
def belongs (log : Recording) (chosen : Nat → Bool) (k : Nat) : Bool :=
  ((log.core? k).bind Int.toNat?).any chosen

/-- Whether line `j` is one of the register lines of the snapshot that line `k` closes: from the
line that closed the one before, or from the start, up to line `k` itself. -/
def partOf (log : Recording) (j k : Nat) : Bool :=
  log[j]?.any (fun text => registers text ≠ []) && log.closes k && log.opening k ≤ j && j < k

/-- Whether line `j` is part of a snapshot that belongs to none of some cores. -/
def removed (log : Recording) (chosen : Nat → Bool) (j : Nat) : Bool :=
  (List.range log.length).any fun k => log.partOf j k && !log.belongs chosen k

/-- The positions of the lines that stay. -/
def remaining (log : Recording) (chosen : Nat → Bool) (k : Nat) : List Nat :=
  (List.range k).filter fun j => !log.removed chosen j

/-- The lines that stay. -/
def restrict (log : Recording) (chosen : Nat → Bool) : Recording :=
  (log.remaining chosen log.length).filterMap fun j => log[j]?

/-! ## The snapshot that is open -/

/-- The snapshot that is open before line `j` stays: the line that closes it, if there is one,
closes a snapshot of one of some cores. -/
def Keeps (log : Recording) (chosen : Nat → Bool) (j : Nat) : Prop :=
  ∀ k, j ≤ k → log.closes k = true → (∀ i, j ≤ i → i < k → log.closes i = false) →
    log.belongs chosen k = true

variable {log : Recording} {chosen : Nat → Bool} {j : Nat} {text : Text}

/-- What is open at the end stays. -/
theorem keeps_length (log : Recording) (chosen : Nat → Bool) : log.Keeps chosen log.length := by
  intro k hk hc
  have hlt := lt_length_of_closes hc
  omega

theorem keeps_of_closes (hc : log.closes j = true) :
    log.Keeps chosen j ↔ log.belongs chosen j = true := by
  constructor
  · intro h
    exact h j (Nat.le_refl j) hc fun i hi hij => by omega
  · intro h k hk _ hnone
    rcases Nat.eq_or_lt_of_le hk with rfl | hlt
    · exact h
    · have hopen := hnone j (Nat.le_refl j) hlt
      rw [hc] at hopen
      cases hopen

theorem keeps_of_not_closes (hc : log.closes j = false) :
    log.Keeps chosen (j + 1) ↔ log.Keeps chosen j := by
  constructor
  · intro h k hk hck hnone
    have hne : j ≠ k := by
      rintro rfl
      rw [hc] at hck
      cases hck
    exact h k (by omega) hck fun i hi hik => hnone i (by omega) hik
  · intro h k hk hck hnone
    refine h k (by omega) hck fun i hi hik => ?_
    rcases Nat.eq_or_lt_of_le hi with rfl | hlt
    · exact hc
    · exact hnone i hlt hik

/-- A register line goes exactly if the snapshot that is open after it does. -/
theorem removed_iff (h : log[j]? = some text) (hr : registers text ≠ []) :
    log.removed chosen j = true ↔ ¬log.Keeps chosen (j + 1) := by
  -- the snapshot of which the line is part is the next one to be closed after it
  have hpart : ∀ k, log.partOf j k = true ↔ j + 1 ≤ k ∧ log.closes k = true ∧
      ∀ i, j + 1 ≤ i → i < k → log.closes i = false := by
    intro k
    simp only [partOf, h, Option.any_some, Bool.and_eq_true, decide_eq_true_eq, opening_le_iff]
    constructor
    · rintro ⟨⟨⟨-, hc⟩, hopen⟩, hjk⟩
      exact ⟨hjk, hc, hopen⟩
    · rintro ⟨hjk, hc, hopen⟩
      exact ⟨⟨⟨hr, hc⟩, hopen⟩, hjk⟩
  rw [removed, List.any_eq_true]
  constructor
  · rintro ⟨k, -, hk⟩ hkeeps
    rw [Bool.and_eq_true, hpart] at hk
    rw [hkeeps k hk.1.1 hk.1.2.1 hk.1.2.2] at hk
    exact absurd hk.2 (by decide)
  · intro hnot
    by_contra hnone
    apply hnot
    intro k hjk hc hopen
    by_contra hb
    refine hnone ⟨k, List.mem_range.2 (lt_length_of_closes hc), ?_⟩
    rw [Bool.and_eq_true, hpart]
    exact ⟨⟨hjk, hc, hopen⟩, by simpa using hb⟩

/-- A line without registers stays. -/
theorem removed_of_registers (h : log[j]? = some text) (hr : registers text = []) :
    log.removed chosen j = false := by
  simp [removed, partOf, h, hr]

/-! ## One more line -/

theorem remaining_succ (log : Recording) (chosen : Nat → Bool) (k : Nat) :
    log.remaining chosen (k + 1) =
      log.remaining chosen k ++ if log.removed chosen k then [] else [k] := by
  rw [remaining, List.range_succ, List.filter_append, ← remaining]
  cases h : log.removed chosen k <;> simp [h]

end Recording

end HartTimeline
