import HartTimeline.Proofs.Run.After

/-!
# Rejected lines

A line is rejected for itself or for the snapshot that it closes. In the first case the run goes on
as if the line had not been there. In the second the snapshot is gone and the line begins the next
one, as it would have done had nothing been gathered before it. Neither leaves anything in a stream.

Main statements: `step_rejected`, what is left of a rejected line, `step_countMore`, lines that have
only been counted change nothing in what a line does, and `rejected_leaves_no_trace`, what comes of
all later lines.
-/

namespace HartTimeline

namespace LogFault

/-- Whether the fault is one of the rejected line itself. -/
def ofLine (text : Text) : LogFault → Bool
  | traceToken .. | format .. => true
  | coreOutOfRange .. => Line.isTrace text
  | attribution .. => false

/-- Whether the fault is one of the snapshot that the rejected line closes. -/
def ofSnapshot (text : Text) : LogFault → Bool
  | attribution .. => true
  | coreOutOfRange .. => Recording.isCounterLine text
  | traceToken .. | format .. => false

end LogFault

namespace Recording

variable {text : Text}

/-- A trace line gives no program counter. -/
theorem isCounterLine_of_isTrace (h : Line.isTrace text = true) : isCounterLine text = false := by
  rw [Bool.eq_false_iff]
  intro hcounter
  exact registers_ne_nil_of_isCounterLine hcounter (registers_of_isTrace h)

/-- A line with the program counter alone gives it one value. -/
theorem registers_of_isCounterLine (h : isCounterLine text = true) :
    ∃ value, registers text = [(counterRegister, value)] := by
  unfold isCounterLine at h
  obtain ⟨⟨name, value⟩, hregisters, hname⟩ := List.map_eq_singleton_iff.1 (of_decide_eq_true h)
  exact ⟨value, by rw [hregisters, ← hname]⟩

end Recording

/-- The counters with so many lines more, of which so many are blank. -/
def Tally.countMore (t : Tally) (more blanks : Nat) : Tally :=
  { t with lines := t.lines + more, blankLines := t.blankLines + blanks }

namespace Tally

variable (t : Tally) (more blanks : Nat)

@[simp] theorem countLine_countMore :
    (t.countMore more blanks).countLine = t.countLine.countMore more blanks := by
  unfold countLine countMore
  rw [Nat.add_right_comm]

@[simp] theorem countBlank_countMore :
    (t.countMore more blanks).countBlank = t.countBlank.countMore more blanks := by
  unfold countBlank countMore
  rw [Nat.add_right_comm]

@[simp] theorem countRegisterLine_countMore :
    (t.countMore more blanks).countRegisterLine = t.countRegisterLine.countMore more blanks := rfl

@[simp] theorem countTrace_countMore (core? : Option Nat) :
    (t.countMore more blanks).countTrace core? = (t.countTrace core?).countMore more blanks := by
  cases core? <;> rfl

@[simp] theorem countDropped_countMore :
    (t.countMore more blanks).countDropped = t.countDropped.countMore more blanks := rfl

@[simp] theorem countBlock_countMore (core new changed : Nat) :
    (t.countMore more blanks).countBlock core new changed =
      (t.countBlock core new changed).countMore more blanks := rfl

end Tally

namespace Run

open Recording (registers)

variable {r r' : Run} {index more blanks : Nat} {text : Text} {fault : LogFault}

/-- A rejected line is counted and nothing else, or it begins the next snapshot in place of the one
that it could not close. -/
theorem step_rejected (h : r.step index text = (r', .rejected fault)) :
    (r' = r.countLine ∧ fault.ofLine text = true ∧ fault.ofSnapshot text = false) ∨
    (r' = r.reopen text ∧ r.closedBy text = true ∧
      fault.ofLine text = false ∧ fault.ofSnapshot text = true) := by
  have hspec := r.step_spec index text
  rw [h] at hspec
  cases hspec with
  | badToken trace token => exact Or.inl ⟨rfl, rfl, rfl⟩
  | traceOutOfRange trace token range =>
    exact Or.inl ⟨rfl, trace, Recording.isCounterLine_of_isTrace trace⟩
  | malformed plain words => exact Or.inl ⟨rfl, rfl, rfl⟩
  | unattributed closed hart => exact Or.inr ⟨rfl, closed, rfl, rfl⟩
  | snapshotOutOfRange closed hart range =>
    have hplain := (Recording.registers_ne_nil_iff.1 (registers_ne_nil_of_closedBy closed)).1
    exact Or.inr ⟨rfl, closed, hplain, (closedBy_eq_true_iff.1 closed).1⟩

/-! ## Lines that are only counted -/

/-- The run with so many lines more counted, of which so many are blank. -/
def countMore (r : Run) (more blanks : Nat) : Run :=
  { r with tally := r.tally.countMore more blanks }

theorem countMore_countMore (r : Run) (more blanks more' blanks' : Nat) :
    (r.countMore more blanks).countMore more' blanks' =
      r.countMore (more + more') (blanks + blanks') := by
  simp [countMore, Tally.countMore, Nat.add_assoc]

theorem Step.of_eq {r₁ r₂ : Run} {outcome : Outcome} (h : Step r index text (r₁, outcome))
    (heq : r₁ = r₂) : Step r index text (r₂, outcome) :=
  heq ▸ h

/-- What a line does, it does also if more lines have been counted. -/
theorem Step.countMore {out : Run × Outcome} (h : Step r index text out) (more blanks : Nat) :
    Step (r.countMore more blanks) index text (out.1.countMore more blanks, out.2) := by
  cases h with
  | badToken trace token =>
    exact .of_eq (.badToken trace token) (by simp [Run.countMore, countLine])
  | traceOutOfRange trace token range =>
    exact .of_eq (.traceOutOfRange trace token range) (by simp [Run.countMore, countLine])
  | copied trace token range =>
    exact .of_eq (.copied trace token range) (by simp [Run.countMore])
  | malformed plain words =>
    exact .of_eq (.malformed plain words) (by simp [Run.countMore, countLine])
  | blank plain words skip => exact .of_eq (.blank plain words skip) (by simp [Run.countMore])
  | gathered some open_ => exact .of_eq (.gathered some open_) (by simp [Run.countMore, gather])
  | unattributed closed hart =>
    exact .of_eq (.unattributed closed hart) (by simp [Run.countMore, reopen])
  | snapshotOutOfRange closed hart range =>
    exact .of_eq (.snapshotOutOfRange closed hart range) (by simp [Run.countMore, reopen])
  | dropped closed hart range =>
    exact .of_eq (.dropped closed hart range) (by simp [Run.countMore, reopen])
  | rendered closed hart range diff =>
    exact .of_eq (.rendered closed hart range diff) (by simp [Run.countMore, reopen])

theorem step_countMore (r : Run) (more blanks index : Nat) (text : Text) :
    (r.countMore more blanks).step index text =
      ((r.step index text).1.countMore more blanks, (r.step index text).2) :=
  step_eq_of_spec ((r.step_spec index text).countMore more blanks)

/-- Later lines do the same whether or not more lines have been counted. -/
theorem after_countMore (r : Run) (more blanks : Nat) (lines : List (Text × Nat)) :
    (r.countMore more blanks).after lines = (r.after lines).countMore more blanks := by
  induction lines generalizing r with
  | nil => rfl
  | cons line lines ih => rw [after, after, step_countMore, ih]

theorem outcomes_countMore (r : Run) (more blanks : Nat) (lines : List (Text × Nat)) :
    (r.countMore more blanks).outcomes lines = r.outcomes lines := by
  induction lines generalizing r with
  | nil => rfl
  | cons line lines ih => rw [outcomes, outcomes, step_countMore, ih]

/-- The same of one more line. -/
theorem after_countLine (r : Run) (lines : List (Text × Nat)) :
    r.countLine.after lines = (r.after lines).countLine :=
  after_countMore r 1 0 lines

theorem outcomes_countLine (r : Run) (lines : List (Text × Nat)) :
    r.countLine.outcomes lines = r.outcomes lines :=
  outcomes_countMore r 1 0 lines

theorem accepts_countMore {lines : List (Text × Nat)} :
    (r.countMore more blanks).Accepts lines ↔ r.Accepts lines := by
  rw [Accepts, Accepts, outcomes_countMore]

/-! ## A snapshot that is gone -/

/-- The run with its open snapshot forgotten. -/
def forget (r : Run) : Run :=
  { r with assembly := Assembly.idle }

/-- A line with the program counter alone begins a snapshot if nothing has been gathered. -/
theorem step_forget (h : Recording.isCounterLine text = true) (r : Run) (index : Nat) :
    r.forget.step index text = (r.reopen text, .taken) := by
  have hopen : r.forget.closedBy text = false := by
    unfold closedBy
    rw [h]
    rfl
  exact step_eq_gather (Recording.registers_ne_nil_of_isCounterLine h) hopen index

/-- A rejected line leaves no trace in what is written. The streams, the baselines and all counters
but those of lines and of register lines are what they were, and one more line is counted. If the
line was at fault itself, neither the register lines nor the open snapshot have changed, and
whatever lines come later, they have the same outcomes and leave the same run as without it, but for
its being counted. If the snapshot that it closes was at fault, one more register line is counted,
the open snapshot is the program counter of the line and nothing else, and the run is the one that
the line would have left had nothing been gathered before it: no later block can show what was. -/
theorem rejected_leaves_no_trace (r r' : Run) (index : Nat) (text : Text) (fault : LogFault)
    (h : r.step index text = (r', .rejected fault)) :
    r'.timeline = r.timeline ∧ r'.baselines = r.baselines ∧
    r'.tally = { r.tally with
      lines := r.tally.lines + 1
      registerLines := r'.tally.registerLines } ∧
    fault.ofLine text = !fault.ofSnapshot text ∧
    (fault.ofLine text = true →
      r'.tally.registerLines = r.tally.registerLines ∧ r'.assembly = r.assembly ∧
      ∀ later, r'.outcomes later = r.outcomes later ∧
        r'.after later = (r.after later).countLine) ∧
    (fault.ofSnapshot text = true →
      r'.tally.registerLines = r.tally.registerLines + 1 ∧
      (∃ value, registers text = [(counterRegister, value)] ∧
        r'.assembly.snapshot.entries = [(counterRegister, value)]) ∧
      ∀ later, r'.outcomes later = (r.forget.step index text).1.outcomes later ∧
        r'.after later = (r.forget.step index text).1.after later) := by
  rcases step_rejected h with ⟨rfl, hline, hsnapshot⟩ | ⟨rfl, hclosed, hline, hsnapshot⟩
  · have hkind : fault.ofLine text = !fault.ofSnapshot text := by rw [hline, hsnapshot]; rfl
    refine ⟨rfl, rfl, rfl, hkind, fun _ => ⟨rfl, rfl, fun later => ?_⟩, fun hof => ?_⟩
    · exact ⟨outcomes_countLine r later, after_countLine r later⟩
    · rw [hsnapshot] at hof
      cases hof
  · have hkind : fault.ofLine text = !fault.ofSnapshot text := by rw [hline, hsnapshot]; rfl
    have hcounter := (closedBy_eq_true_iff.1 hclosed).1
    refine ⟨rfl, rfl, rfl, hkind, fun hof => ?_, fun _ => ⟨rfl, ?_, fun later => ?_⟩⟩
    · rw [hline] at hof
      cases hof
    · obtain ⟨value, hregisters⟩ := Recording.registers_of_isCounterLine hcounter
      refine ⟨value, hregisters, ?_⟩
      show (Assoc.ofList (registers text)).entries = _
      rw [hregisters]
      rfl
    · rw [step_forget hcounter]
      exact ⟨rfl, rfl⟩

/-- A snapshot of no hart, which a program counter alone fails to close. -/
def hartless : Run :=
  (start 1 false).after [(Text.of "x 1", 0), (Text.of "pc 10", 1)]

/-- Of that snapshot the program counter of the rejected line is all that the next one starts from:
the register of before it is not in the next block. -/
theorem rejected_leaves_no_trace_of_hartless :
    let rejected := hartless.step 2 (Text.of "pc 14")
    let later := [(Text.of "mhartid 1", 3), (Text.of "pc 18", 4)]
    rejected.2 = .rejected (.attribution 3 .missingHart) ∧
      rejected.1.timeline = hartless.timeline ∧ rejected.1.baselines = hartless.baselines ∧
      rejected.1.tally.registerLines = hartless.tally.registerLines + 1 ∧
      rejected.1.outcomes later =
        [.taken, .rendered ⟨0, [.new (Text.of "pc") (Text.of "14"),
          .new (Text.of "mhartid") (Text.of "1")]⟩] := by
  intro rejected later
  have hrejected : rejected.2 = .rejected (.attribution 3 .missingHart) := by decide +kernel
  have h : hartless.step 2 (Text.of "pc 14") =
      (rejected.1, .rejected (.attribution 3 .missingHart)) := by
    rw [← hrejected]
  obtain ⟨htimeline, hbaselines, -, -, -, hof⟩ := rejected_leaves_no_trace _ _ _ _ _ h
  obtain ⟨hlines, -, hlater⟩ := hof rfl
  refine ⟨hrejected, htimeline, hbaselines, hlines, (hlater later).1.trans ?_⟩
  decide +kernel

end Run

end HartTimeline
