import HartTimeline.Proofs.Assoc.Collected
import HartTimeline.Snapshot

/-!
# Recordings

A recording is a log as the list of its lines. Which lines close a snapshot, which registers the
snapshot is made of and which core it belongs to is said here of the whole list, by positions
counted from 0 and without reading it line by line.

Main statements: `gathered_succ_of_closes` and `gathered_succ_of_not_closes`, what one more line
does to the open snapshot, and `counter_mem_gathered_iff`, the open snapshot holds the program
counter as soon as any line before has given it.
-/

namespace HartTimeline

/-- The lines of a log, in order. -/
abbrev Recording := List Text

namespace Recording

/-! ## Register lines -/

/-- The registers that a line gives, with their values; only register lines give any. -/
def registers (text : Text) : List Register :=
  if Line.isTrace text then [] else (Line.pairUp? (Text.words text)).getD []

/-- Whether a line gives the program counter and nothing else. -/
def isCounterLine (text : Text) : Bool :=
  (registers text).map Prod.fst = [counterRegister]

/-- Whether a line gives the program counter, alone or among others. -/
def givesCounter (text : Text) : Bool :=
  counterRegister ∈ (registers text).map Prod.fst

/-! ## Snapshots by position -/

/-- The last position before `k` that has a property. -/
def latestBefore (p : Nat → Bool) (k : Nat) : Option Nat :=
  ((List.range k).filter p).getLast?

/-- Whether line `k` closes a snapshot: it gives the program counter alone, and some line before it
has given the program counter. -/
def closes (log : Recording) (k : Nat) : Bool :=
  log[k]?.any isCounterLine && (log.take k).any givesCounter

/-- Where the snapshot begins that is open before line `k`: at the line that closed the one before
it, or at the start. -/
def opening (log : Recording) (k : Nat) : Nat :=
  (latestBefore log.closes k).getD 0

/-- The registers of the snapshot that is open before line `k`, line by line. -/
def gathered (log : Recording) (k : Nat) : List Register :=
  ((log.take k).drop (log.opening k)).flatMap registers

/-- The core of the snapshot that is open before line `k`: one below the hart number that it was
given last. -/
def core? (log : Recording) (k : Nat) : Option Int :=
  ((Assoc.lastValue? (log.gathered k) hartRegister).bind Text.signed64?).bind fun hart =>
    if hart = Text.int64Min then none else some (hart - 1)

/-- Whether line `k` closes a snapshot of a core. -/
def closesFor (log : Recording) (core : Int) (k : Nat) : Bool :=
  log.closes k && log.core? k = some core

/-- The line before `k` that last closed a snapshot of a core. -/
def previous? (log : Recording) (k : Nat) (core : Int) : Option Nat :=
  latestBefore (log.closesFor core) k

/-! ## The last position with a property -/

@[simp] theorem latestBefore_zero (p : Nat → Bool) : latestBefore p 0 = none := rfl

theorem latestBefore_succ (p : Nat → Bool) (k : Nat) :
    latestBefore p (k + 1) = if p k then some k else latestBefore p k := by
  cases h : p k <;> simp [latestBefore, List.range_succ, h]

/-- The last position lies before `k`, has the property, and no later one has it. -/
theorem latestBefore_eq_some_iff {p : Nat → Bool} {k j : Nat} :
    latestBefore p k = some j ↔ j < k ∧ p j = true ∧ ∀ i, j < i → i < k → p i = false := by
  induction k with
  | zero => simp
  | succ k ih =>
    rw [latestBefore_succ]
    cases hk : p k with
    | true =>
      simp only [if_true, Option.some.injEq]
      constructor
      · rintro rfl
        exact ⟨by omega, hk, fun i hi hik => by omega⟩
      · rintro ⟨hj, -, hlast⟩
        by_contra hne
        have := hlast k (by omega) (by omega)
        rw [hk] at this
        exact absurd this (by decide)
    | false =>
      rw [if_neg (by decide), ih]
      constructor
      · rintro ⟨hj, hp, hlast⟩
        refine ⟨by omega, hp, fun i hi hik => ?_⟩
        rcases Nat.lt_succ_iff_lt_or_eq.1 hik with h | h
        · exact hlast i hi h
        · rw [h, hk]
      · rintro ⟨hj, hp, hlast⟩
        have hne : j ≠ k := fun e => by rw [e, hk] at hp; exact absurd hp (by decide)
        exact ⟨by omega, hp, fun i hi hik => hlast i hi (by omega)⟩

theorem opening_le (log : Recording) (k : Nat) : log.opening k ≤ k := by
  rw [opening]
  cases h : latestBefore log.closes k with
  | none => simp
  | some j => exact Nat.le_of_lt (latestBefore_eq_some_iff.1 h).1

/-- A snapshot that is open before line `k` begins at `j` or before exactly if no line between them
closes one. -/
theorem opening_le_iff {log : Recording} {k j : Nat} :
    log.opening k ≤ j ↔ ∀ i, j < i → i < k → log.closes i = false := by
  induction k with
  | zero => simp [opening]
  | succ k ih =>
    rw [opening, latestBefore_succ]
    cases hk : log.closes k with
    | true =>
      simp only [if_true, Option.getD_some]
      constructor
      · intro hkj i hi hik
        omega
      · intro hnone
        by_contra hkj
        have := hnone k (by omega) (by omega)
        rw [hk] at this
        exact absurd this (by decide)
    | false =>
      rw [if_neg (by decide), ← opening, ih]
      constructor
      · intro hnone i hi hik
        rcases Nat.lt_succ_iff_lt_or_eq.1 hik with h | h
        · exact hnone i hi h
        · rw [h, hk]
      · intro hnone i hi hik
        exact hnone i hi (by omega)

/-! ## One more line -/

variable {log : Recording} {k : Nat} {text : Text}

theorem closes_eq (h : log[k]? = some text) :
    log.closes k = (isCounterLine text && (log.take k).any givesCounter) := by
  unfold closes
  rw [h, Option.any_some]

theorem lt_length_of_closes (h : log.closes k = true) : k < log.length := by
  by_contra hk
  rw [closes, List.getElem?_eq_none (by omega)] at h
  exact absurd h (by simp)

/-- A line alone with the program counter gives it. -/
theorem givesCounter_of_isCounterLine (h : isCounterLine text = true) :
    givesCounter text = true := by
  simp only [isCounterLine, decide_eq_true_eq] at h
  simp [givesCounter, h]

theorem take_succ {α : Type} {l : List α} {k : Nat} {a : α} (h : l[k]? = some a) :
    l.take (k + 1) = l.take k ++ [a] := by
  rw [List.take_add_one, h, Option.toList_some]

/-- A line that closes a snapshot is the first of the next one. -/
theorem gathered_succ_of_closes (h : log[k]? = some text) (hc : log.closes k = true) :
    log.gathered (k + 1) = registers text := by
  have hk : k < log.length := lt_length_of_closes hc
  -- the open snapshot begins with line `k` from now on
  have hopen : log.opening (k + 1) = k := by
    unfold opening
    rw [latestBefore_succ, if_pos hc, Option.getD_some]
  rw [gathered, hopen, take_succ h, List.drop_append_of_le_length (by simp; omega)]
  simp

/-- Any other line adds its registers to the open snapshot. -/
theorem gathered_succ_of_not_closes (h : log[k]? = some text) (hc : log.closes k = false) :
    log.gathered (k + 1) = log.gathered k ++ registers text := by
  have hk : k < log.length := (List.getElem?_eq_some_iff.1 h).1
  have hle := log.opening_le k
  -- the open snapshot begins where it began before, and gets longer
  have hopen : log.opening (k + 1) = log.opening k := by
    rw [opening, latestBefore_succ, if_neg (by simp [hc]), ← opening]
  rw [gathered, hopen, take_succ h, List.drop_append_of_le_length (by simp; omega),
    List.flatMap_append, List.flatMap_cons, List.flatMap_nil, List.append_nil, ← gathered]

@[simp] theorem gathered_zero (log : Recording) : log.gathered 0 = [] := by
  simp [gathered]

/-- The open snapshot holds the program counter exactly if any line before has given it. -/
theorem counter_mem_gathered_iff (hk : k ≤ log.length) :
    counterRegister ∈ (log.gathered k).map Prod.fst ↔ (log.take k).any givesCounter = true := by
  induction k with
  | zero => simp
  | succ k ih =>
    obtain ⟨text, h⟩ : ∃ text, log[k]? = some text := ⟨_, List.getElem?_eq_getElem (by omega)⟩
    have hadd : (log.take (k + 1)).any givesCounter =
        ((log.take k).any givesCounter || givesCounter text) := by
      rw [take_succ h]; simp
    cases hc : log.closes k with
    | true =>
      -- the snapshot begins anew, but the line that closes it gives the counter
      rw [gathered_succ_of_closes h hc, hadd]
      rw [closes_eq h, Bool.and_eq_true] at hc
      have hgives := givesCounter_of_isCounterLine hc.1
      rw [hgives, Bool.or_true]
      simpa [givesCounter] using hgives
    | false =>
      rw [gathered_succ_of_not_closes h hc, hadd, List.map_append, List.mem_append,
        ih (by omega), Bool.or_eq_true]
      simp [givesCounter]

end Recording

end HartTimeline
