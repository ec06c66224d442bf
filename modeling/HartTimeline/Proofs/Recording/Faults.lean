import HartTimeline.Proofs.Run.Reads

/-!
# Faulty lines

Which lines of a recording are faulty, and how, follows from the recording alone. A faulty register
shows only at the line that closes its snapshot.

Main statement: `ofLog_eq_error_iff_first_fault`, a log is refused exactly for its first faulty
line.
-/

namespace HartTimeline

namespace Recording

/-- Line `k` is faulty. Lines are reported by numbers counted from 1. -/
inductive FaultAt (cores : Nat) (skipBlank : Bool) (log : Recording) (k : Nat) : LogFault → Prop
  /-- A trace line without a hart number. -/
  | token {text : Text} {reason : HartTokenFault} (line : log[k]? = some text)
      (trace : Line.isTrace text = true) (bad : traceCore text = .error reason) :
      FaultAt cores skipBlank log k (.traceToken (k + 1) text reason)
  /-- A trace line of a core that is not tracked. -/
  | traceRange {text : Text} {core : Int} (line : log[k]? = some text)
      (trace : Line.isTrace text = true) (token : traceCore text = .ok core)
      (range : cores ≤ core) :
      FaultAt cores skipBlank log k (.coreOutOfRange (k + 1) core cores)
  /-- Words that are not pairs, or none at all. -/
  | format {text : Text} (line : log[k]? = some text) (plain : Line.isTrace text = false)
      (words : (Text.words text).length % 2 = 1 ∨
        (Text.words text).length = 0 ∧ skipBlank = false) :
      FaultAt cores skipBlank log k (.format (k + 1) (Text.words text).length text)
  /-- A closed snapshot without a hart number. -/
  | missingHart (closes : log.closes k = true)
      (hart : Assoc.lastValue? (log.gathered k) hartRegister = none) :
      FaultAt cores skipBlank log k (.attribution (k + 1) .missingHart)
  /-- A closed snapshot whose hart number is no number of 64 bits. -/
  | notNumeric {value : Text} (closes : log.closes k = true)
      (hart : Assoc.lastValue? (log.gathered k) hartRegister = some value)
      (bad : Text.signed64? value = none) :
      FaultAt cores skipBlank log k (.attribution (k + 1) (.notNumeric value))
  /-- A closed snapshot with the hart number that has none below it. -/
  | noCore {value : Text} (closes : log.closes k = true)
      (hart : Assoc.lastValue? (log.gathered k) hartRegister = some value)
      (least : Text.signed64? value = some Text.int64Min) :
      FaultAt cores skipBlank log k (.attribution (k + 1) (.noCore value))
  /-- A closed snapshot of a core that is not tracked. -/
  | snapshotRange {value : Text} {number : Int} (closes : log.closes k = true)
      (hart : Assoc.lastValue? (log.gathered k) hartRegister = some value)
      (numeral : Text.signed64? value = some number) (range : cores ≤ number - 1) :
      FaultAt cores skipBlank log k (.coreOutOfRange (k + 1) (number - 1) cores)

variable {cores k : Nat} {skipBlank : Bool} {log : Recording} {text : Text}

/-- Faults are found in lines that there are. -/
theorem FaultAt.lt_length {f : LogFault} (h : FaultAt cores skipBlank log k f) :
    k < log.length := by
  cases h with
  | token line | traceRange line | format line => exact (List.getElem?_eq_some_iff.1 line).1
  | missingHart closes | notNumeric closes | noCore closes | snapshotRange closes =>
    exact lt_length_of_closes closes

/-- The fault of a trace line is in its hart token. -/
theorem faultAt_iff_of_isTrace {f : LogFault} (ht : log[k]? = some text)
    (htrace : Line.isTrace text = true) :
    FaultAt cores skipBlank log k f ↔
      match traceCore text with
      | .error reason => f = .traceToken (k + 1) text reason
      | .ok core => cores ≤ core ∧ f = .coreOutOfRange (k + 1) core cores := by
  have hopen : log.closes k = false :=
    closes_eq_false_of_registers ht (registers_of_isTrace htrace)
  constructor
  · intro hf
    cases hf with
    | token line trace bad =>
      cases ht.symm.trans line
      rw [bad]
    | traceRange line trace token range =>
      cases ht.symm.trans line
      rw [token]
      exact ⟨range, rfl⟩
    | format line plain =>
      cases ht.symm.trans line
      cases htrace.symm.trans plain
    | missingHart closes | notNumeric closes | noCore closes | snapshotRange closes =>
      cases hopen.symm.trans closes
  · intro hf
    split at hf
    case h_1 reason hbad =>
      subst hf
      exact .token ht htrace hbad
    case h_2 core hok =>
      obtain ⟨hrange, rfl⟩ := hf
      exact .traceRange ht htrace hok hrange

/-- The fault of a line that closes a snapshot is in the snapshot's hart number. -/
theorem faultAt_iff_of_closes {f : LogFault} (ht : log[k]? = some text)
    (hc : log.closes k = true) :
    FaultAt cores skipBlank log k f ↔
      match (log.snapshot k).core with
      | .error reason => f = .attribution (k + 1) reason
      | .ok core => cores ≤ core ∧ f = .coreOutOfRange (k + 1) core cores := by
  have hplain := isTrace_of_closes ht hc
  rw [core_snapshot]
  constructor
  · intro hf
    cases hf with
    | token line trace | traceRange line trace =>
      cases ht.symm.trans line
      cases hplain.symm.trans trace
    | format line plain words =>
      cases ht.symm.trans line
      exact absurd (registers_of_malformed words) (registers_ne_nil_of_closes ht hc)
    | missingHart closes hart => rw [hart]
    | notNumeric closes hart bad => simp only [hart, bad]
    | noCore closes hart least => simp only [hart, least, if_true]
    | @snapshotRange value number closes hart numeral range =>
      -- the least number is negative, so that its core would not be out of range
      have hne : number ≠ Text.int64Min := by
        rintro rfl
        have : Text.int64Min < 0 := by decide
        omega
      simpa only [hart, numeral, if_neg hne, and_true] using range
  · intro hf
    cases hhart : Assoc.lastValue? (log.gathered k) hartRegister with
    | none =>
      simp only [hhart] at hf
      subst hf
      exact .missingHart hc hhart
    | some value =>
      cases hnumber : Text.signed64? value with
      | none =>
        simp only [hhart, hnumber] at hf
        subst hf
        exact .notNumeric hc hhart hnumber
      | some number =>
        by_cases hleast : number = Text.int64Min
        · simp only [hhart, hnumber, if_pos hleast] at hf
          subst hf
          exact .noCore hc hhart (hleast ▸ hnumber)
        · simp only [hhart, hnumber, if_neg hleast] at hf
          obtain ⟨hrange, rfl⟩ := hf
          exact .snapshotRange hc hhart hnumber hrange

/-- The fault of any other line is in the number of its words. -/
theorem faultAt_iff_of_plain {f : LogFault} (ht : log[k]? = some text)
    (hplain : Line.isTrace text = false) (hc : log.closes k = false) :
    FaultAt cores skipBlank log k f ↔
      ((Text.words text).length % 2 = 1 ∨ (Text.words text).length = 0 ∧ skipBlank = false) ∧
        f = .format (k + 1) (Text.words text).length text := by
  constructor
  · intro hf
    cases hf with
    | token line trace | traceRange line trace =>
      cases ht.symm.trans line
      cases hplain.symm.trans trace
    | format line plain words =>
      cases ht.symm.trans line
      exact ⟨words, rfl⟩
    | missingHart closes | notNumeric closes | noCore closes | snapshotRange closes =>
      cases hc.symm.trans closes
  · rintro ⟨hwords, rfl⟩
    exact .format ht hplain hwords

end Recording

open Recording (FaultAt)

/-! ## The fault of one line -/

/-- A run rejects a line exactly for the fault that the line has. -/
theorem Reads.fault?_eq_some_iff {cores k : Nat} {skipBlank : Bool} {log : Recording} {r : Run}
    {text : Text} {f : LogFault} (h : Reads cores log k r) (hskip : r.skipBlank = skipBlank)
    (ht : log[k]? = some text) :
    (r.step k text).2.fault? = some f ↔ FaultAt cores skipBlank log k f := by
  have hclosedBy := h.closedBy_eq ht
  cases htrace : Line.isTrace text with
  | true =>
    rw [Run.fault?_of_isTrace htrace, h.tracked, Recording.faultAt_iff_of_isTrace ht htrace]
    cases traceCore text with
    | error reason => simp [eq_comm]
    | ok core => by_cases hrange : cores ≤ core <;> simp [hrange, eq_comm]
  | false =>
    cases hc : log.closes k with
    | true =>
      rw [Run.fault?_of_closedBy (hclosedBy.trans hc), h.tracked, h.assembly,
        Recording.faultAt_iff_of_closes ht hc]
      cases (log.snapshot k).core with
      | error reason => simp [eq_comm]
      | ok core => by_cases hrange : cores ≤ core <;> simp [hrange, eq_comm]
    | false =>
      rw [Run.fault?_of_plain htrace (hclosedBy.trans hc), hskip,
        Recording.faultAt_iff_of_plain ht htrace hc]
      split
      case isTrue hwords =>
        simp only [hwords, true_and, Option.some.injEq]
        exact eq_comm
      case isFalse hwords => simp only [hwords, false_and, reduceCtorEq]

/-! ## The first fault of a log -/

/-- In a list the first element with a result has an index below which there is none. -/
theorem findSome?_eq_some_iff_getElem? {α β : Type} {f : α → Option β} {l : List α} {b : β} :
    l.findSome? f = some b ↔
      ∃ k : Nat, l[k]?.bind f = some b ∧ ∀ j < k, l[j]?.bind f = none := by
  induction l with
  | nil => simp
  | cons a l ih =>
    rw [List.findSome?_cons]
    cases ha : f a with
    | some b' =>
      constructor
      · intro h
        exact ⟨0, by simpa [ha] using h, by simp⟩
      · rintro ⟨k, hk, hbefore⟩
        cases k with
        | zero => simpa [ha] using hk
        | succ k => simpa [ha] using hbefore 0 (by omega)
    | none =>
      simp only [ih]
      constructor
      · rintro ⟨k, hk, hbefore⟩
        refine ⟨k + 1, by simpa using hk, fun j hj => ?_⟩
        cases j with
        | zero => simpa using ha
        | succ j => simpa using hbefore j (by omega)
      · rintro ⟨k, hk, hbefore⟩
        cases k with
        | zero => simp [ha] at hk
        | succ k =>
          exact ⟨k, by simpa using hk, fun j hj => by simpa using hbefore (j + 1) (by omega)⟩

namespace Recording

variable {cores : Nat} {skipBlank : Bool} {log : Recording}

/-- Fed from the start, line by line, a run rejects each line exactly for the fault it has. -/
theorem outcome_eq_some_iff (k : Nat) (f : LogFault) :
    ((Run.start cores skipBlank).outcomes log.zipIdx)[k]?.bind Outcome.fault? = some f ↔
      FaultAt cores skipBlank log k f := by
  have hfst : log.zipIdx.map Prod.fst = log := List.zipIdx_map_fst 0 log
  rw [Run.getElem?_outcomes]
  cases ht : log[k]? with
  | none =>
    have hlen : ¬k < log.length := Nat.not_lt.2 (List.getElem?_eq_none_iff.1 ht)
    constructor
    · intro h
      simp [List.getElem?_zipIdx, ht] at h
    · intro h
      exact absurd h.lt_length hlen
  | some text =>
    have hk : k < log.length := (List.getElem?_eq_some_iff.1 ht).1
    -- what the run holds before line `k` is what the recording says of it
    have hreads := Reads.after cores skipBlank log.zipIdx k (by simp; omega)
    rw [hfst] at hreads
    have hskip : ((Run.start cores skipBlank).after (log.zipIdx.take k)).skipBlank = skipBlank :=
      (Run.after_fixed _ _).1
    simp only [List.getElem?_zipIdx, ht, Option.map_some, Option.bind_some, Nat.zero_add]
    exact hreads.fault?_eq_some_iff hskip ht

theorem outcome_eq_none_iff (k : Nat) :
    ((Run.start cores skipBlank).outcomes log.zipIdx)[k]?.bind Outcome.fault? = none ↔
      ∀ f, ¬FaultAt cores skipBlank log k f := by
  simp only [Option.eq_none_iff_forall_ne_some, ne_eq, outcome_eq_some_iff]

/-- No line is rejected exactly if no line is faulty. -/
theorem accepts_iff_forall_not_faultAt :
    (Run.start cores skipBlank).Accepts log.zipIdx ↔ ∀ k f, ¬FaultAt cores skipBlank log k f := by
  simp only [← outcome_eq_none_iff, Run.Accepts, List.mem_iff_getElem?]
  constructor
  · intro h k
    cases ho : ((Run.start cores skipBlank).outcomes log.zipIdx)[k]? with
    | none => rfl
    | some o => exact h o ⟨k, ho⟩
  · rintro h o ⟨k, ho⟩
    simpa [ho] using h k

/-- A log is read to its end exactly if no line of it is faulty. -/
theorem exists_ofLog_eq_ok_iff {log : Text} :
    (∃ report, Report.ofLog cores skipBlank log = .ok report) ↔
      ∀ k f, ¬FaultAt cores skipBlank (Text.lines log) k f := by
  rw [← accepts_iff_forall_not_faultAt]
  simp only [Run.ofLog_eq_ok_iff, exists_and_left, exists_eq', and_true]

/-- A log is read to its end exactly if no line of it is faulty, and it is refused for the fault of
its first faulty line. -/
theorem ofLog_eq_error_iff_first_fault (cores : Nat) (skipBlank : Bool) (log : Text) :
    ((∃ report, Report.ofLog cores skipBlank log = .ok report) ↔
      ∀ k f, ¬FaultAt cores skipBlank (Text.lines log) k f) ∧
    ∀ f, Report.ofLog cores skipBlank log = .error f ↔
      ∃ k, FaultAt cores skipBlank (Text.lines log) k f ∧
        ∀ j < k, ∀ g, ¬FaultAt cores skipBlank (Text.lines log) j g := by
  -- the first fault among the outcomes, in terms of faulty lines
  have hfirst := fun f => findSome?_eq_some_iff_getElem? (f := Outcome.fault?)
    (l := (Run.start cores skipBlank).outcomes (Text.lines log).zipIdx) (b := f)
  simp only [outcome_eq_some_iff, outcome_eq_none_iff] at hfirst
  rw [← accepts_iff_forall_not_faultAt, Run.Accepts, ← List.findSome?_eq_none_iff]
  simp only [← hfirst, Report.ofLog, Run.steps_eq]
  cases ((Run.start cores skipBlank).outcomes (Text.lines log).zipIdx).findSome?
    Outcome.fault? with
  | none => simp [Except.map]
  | some g => simp [Except.map]

end Recording

end HartTimeline
