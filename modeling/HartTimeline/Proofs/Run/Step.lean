import HartTimeline.Proofs.Line
import HartTimeline.Proofs.Recording
import HartTimeline.Run

/-!
# What one line does

Every line of a log does one of ten things to a run. `Run.Step` lists them with all they depend on,
and everything that is said of runs is proved from this list.

Main statements: `Run.step_eq_of_spec`, a step does what the one of the ten does that is possible,
and `Run.step_spec`, one of them always is.
-/

namespace HartTimeline

/-! ## Register lines -/

namespace Recording

/-- A trace line gives no register. -/
theorem registers_of_isTrace {text : Text} (h : Line.isTrace text = true) :
    registers text = [] := by
  unfold registers
  rw [if_pos h]

/-- A line gives registers exactly if it is a register line: no trace line, and words to pair. -/
theorem registers_ne_nil_iff {text : Text} :
    registers text ≠ [] ↔
      Line.isTrace text = false ∧ (Text.words text).length % 2 = 0 ∧ Text.words text ≠ [] := by
  cases ht : Line.isTrace text with
  | true => simp [registers, ht]
  | false =>
    cases hp : Line.pairUp? (Text.words text) with
    | none =>
      have hodd := (Line.pairUp?_eq_none_iff _).1 hp
      simp [registers, ht, hp, hodd]
    | some ps =>
      have hwords := Line.pairUp?_eq_some_iff.1 hp
      have heven : (Text.words text).length % 2 = 0 := by
        rcases Nat.mod_two_eq_zero_or_one (Text.words text).length with h | h
        · exact h
        · rw [(Line.pairUp?_eq_none_iff _).2 h] at hp
          cases hp
      have hempty : Text.words text = [] ↔ ps = [] := by
        rw [hwords]
        cases ps <;> simp
      simp [registers, ht, hp, heven, hempty]

/-- A line without words gives no register. -/
theorem registers_of_blank {text : Text} (words : (Text.words text).length = 0) :
    registers text = [] := by
  by_contra hr
  exact (registers_ne_nil_iff.1 hr).2.2 (List.length_eq_zero_iff.1 words)

/-- Nor does a line whose words are no pairs. -/
theorem registers_of_malformed {text : Text} {skipBlank : Bool}
    (words : (Text.words text).length % 2 = 1 ∨
      (Text.words text).length = 0 ∧ skipBlank = false) : registers text = [] := by
  rcases words with hodd | ⟨hzero, -⟩
  · by_contra hr
    have heven := (registers_ne_nil_iff.1 hr).2.1
    omega
  · exact registers_of_blank hzero

/-- A register line without registers whose words are pairs has no words at all. -/
theorem length_words_of_registers_eq_nil {text : Text} (plain : Line.isTrace text = false)
    (words : (Text.words text).length % 2 ≠ 1) (h : registers text = []) :
    (Text.words text).length = 0 := by
  by_contra hne
  refine registers_ne_nil_iff.2 ⟨plain, by omega, fun hnil => hne ?_⟩ h
  rw [hnil, List.length_nil]

/-- The registers of a register line are its words, paired up. -/
theorem pairUp?_words_of_registers {text : Text} (h : registers text ≠ []) :
    Line.pairUp? (Text.words text) = some (registers text) := by
  have hplain := (registers_ne_nil_iff.1 h).1
  have hreg : registers text = (Line.pairUp? (Text.words text)).getD [] := by
    simp [registers, hplain]
  cases hp : Line.pairUp? (Text.words text) with
  | none => exact absurd (by rw [hreg, hp]; rfl) h
  | some given => rw [hreg, hp, Option.getD_some]

/-- Only a line with registers closes a snapshot. -/
theorem registers_ne_nil_of_isCounterLine {text : Text} (h : isCounterLine text = true) :
    registers text ≠ [] := by
  intro hr
  simp [isCounterLine, hr] at h

end Recording

/-! ## The ten things -/

namespace Run

open Recording (registers)

/-- Whether the line would close the snapshot that a run holds. -/
def closedBy (r : Run) (text : Text) : Bool :=
  Recording.isCounterLine text && r.assembly.snapshot.contains counterRegister

/-- A snapshot that holds a program counter is closed by another one. -/
theorem closedBy_eq_true_iff {r : Run} {text : Text} :
    r.closedBy text = true ↔
      Recording.isCounterLine text = true ∧
        r.assembly.snapshot.contains counterRegister = true := by
  rw [closedBy, Bool.and_eq_true]

/-- The run with the line counted and its registers gathered. -/
def gather (r : Run) (text : Text) : Run :=
  { r with
    assembly := ⟨some (r.assembly.snapshot.insertAll (registers text))⟩
    tally := r.tally.countLine.countRegisterLine }

/-- The run with the line counted and a new snapshot begun by its registers. -/
def reopen (r : Run) (text : Text) : Run :=
  { r with
    assembly := ⟨some (Assoc.ofList (registers text))⟩
    tally := r.tally.countLine.countRegisterLine }

@[simp] theorem closedSnapshots_reopen (r : Run) (text : Text) :
    (r.reopen text).tally.closedSnapshots = r.tally.closedSnapshots := rfl

@[simp] theorem droppedSnapshots_reopen (r : Run) (text : Text) :
    (r.reopen text).tally.droppedSnapshots = r.tally.droppedSnapshots := rfl

/-- What one line can do to a run, with the outcome. -/
inductive Step (r : Run) (index : Nat) (text : Text) : Run × Outcome → Prop
  /-- A trace line without a hart number. -/
  | badToken {reason : HartTokenFault} (trace : Line.isTrace text = true)
      (token : traceCore text = .error reason) :
      Step r index text (r.countLine, .rejected (.traceToken (index + 1) text reason))
  /-- A trace line of a core that is not tracked. -/
  | traceOutOfRange {core : Int} (trace : Line.isTrace text = true)
      (token : traceCore text = .ok core) (range : r.cores ≤ core) :
      Step r index text (r.countLine, .rejected (.coreOutOfRange (index + 1) core r.cores))
  /-- A trace line that is copied. -/
  | copied {core : Int} (trace : Line.isTrace text = true)
      (token : traceCore text = .ok core) (range : core < r.cores) :
      Step r index text
        ({ r with
            timeline := r.timeline.push (.trace text core.toNat?)
            tally := r.tally.countLine.countTrace core.toNat? }, .taken)
  /-- A line of no kind. -/
  | malformed (plain : Line.isTrace text = false)
      (words : (Text.words text).length % 2 = 1 ∨
        (Text.words text).length = 0 ∧ r.skipBlank = false) :
      Step r index text
        (r.countLine, .rejected (.format (index + 1) (Text.words text).length text))
  /-- A blank line that is skipped. -/
  | blank (plain : Line.isTrace text = false) (words : (Text.words text).length = 0)
      (skip : r.skipBlank = true) :
      Step r index text ({ r with tally := r.tally.countLine.countBlank }, .taken)
  /-- A register line that closes nothing. -/
  | gathered (some : registers text ≠ []) (open_ : r.closedBy text = false) :
      Step r index text (r.gather text, .taken)
  /-- A register line that closes a snapshot without a hart number. -/
  | unattributed {reason : AttributionFault} (closed : r.closedBy text = true)
      (hart : r.assembly.snapshot.core = .error reason) :
      Step r index text (r.reopen text, .rejected (.attribution (index + 1) reason))
  /-- A register line that closes a snapshot of a core that is not tracked. -/
  | snapshotOutOfRange {core : Int} (closed : r.closedBy text = true)
      (hart : r.assembly.snapshot.core = .ok core) (range : r.cores ≤ core) :
      Step r index text
        (r.reopen text, .rejected (.coreOutOfRange (index + 1) core r.cores))
  /-- A register line that closes a snapshot of no core. -/
  | dropped {core : Int} (closed : r.closedBy text = true)
      (hart : r.assembly.snapshot.core = .ok core) (range : core < 0) :
      Step r index text
        ({ r.reopen text with tally := (r.reopen text).tally.countDropped }, .dropped core)
  /-- A register line that closes a snapshot of a tracked core. -/
  | rendered {core : Nat} {block : Block} (closed : r.closedBy text = true)
      (hart : r.assembly.snapshot.core = .ok core) (range : core < r.cores)
      (diff : block = Block.between core (r.baselines.get? core) r.assembly.snapshot) :
      Step r index text
        ({ r.reopen text with
            baselines := r.baselines.set core r.assembly.snapshot
            timeline := r.timeline.push (.block block)
            tally := (r.reopen text).tally.countBlock core block.newCount block.changedCount },
          .rendered block)

/-! ## What a step computes -/

theorem toNat?_of_neg {core : Int} (h : core < 0) : core.toNat? = none := by
  cases core with
  | ofNat n => exact absurd h (Int.not_lt.2 (Int.natCast_nonneg n))
  | negSucc n => rfl

/-- A negative core has no stream, and a tracked one its own. -/
theorem streamOf_eq (cores line : Nat) (core : Int) :
    streamOf cores line core =
      if core < cores then .ok core.toNat? else .error (.coreOutOfRange line core cores) := by
  cases core with
  | ofNat n =>
    have hnonneg : ¬(n : Int) < 0 := by omega
    simp [streamOf, Int.toNat?, hnonneg]
  | negSucc n =>
    have hneg : Int.negSucc n < 0 := Int.negSucc_lt_zero n
    have hlt : Int.negSucc n < (cores : Int) := by omega
    simp [streamOf, Int.toNat?, hneg, hlt]

/-- A snapshot that holds a register is there. -/
theorem current?_of_contains {a : Assembly} {name : Text}
    (h : a.snapshot.contains name = true) : a.current? = some a.snapshot := by
  cases hc : a.current? with
  | none => simp [Assembly.snapshot, hc, Assoc.contains] at h
  | some s => simp [Assembly.snapshot, hc]

variable {r : Run} {text : Text} {core : Int}

theorem registers_ne_nil_of_closedBy (h : r.closedBy text = true) : registers text ≠ [] :=
  Recording.registers_ne_nil_of_isCounterLine (closedBy_eq_true_iff.1 h).1

/-! ### Trace lines -/

theorem step_eq_of_badToken {reason : HartTokenFault} (trace : Line.isTrace text = true)
    (token : traceCore text = .error reason) (index : Nat) :
    r.step index text = (r.countLine, .rejected (.traceToken (index + 1) text reason)) := by
  simp [step, Line.ofText, trace, token, Except.map]

theorem step_eq_of_token (trace : Line.isTrace text = true) (token : traceCore text = .ok core)
    (index : Nat) :
    r.step index text =
      if core < r.cores then
        ({ r with
            timeline := r.timeline.push (.trace text core.toNat?)
            tally := r.tally.countLine.countTrace core.toNat? }, .taken)
      else (r.countLine, .rejected (.coreOutOfRange (index + 1) core r.cores)) := by
  have hstep : r.step index text = r.countLine.takeTrace (index + 1) text core := by
    simp [step, Line.ofText, trace, token, Except.map, takeLine]
  have hcores : r.countLine.cores = r.cores := rfl
  rw [hstep, takeTrace, streamOf_eq, hcores]
  by_cases hrange : core < r.cores
  · rw [if_pos hrange, if_pos hrange]
    rfl
  · rw [if_neg hrange, if_neg hrange]

/-! ### Lines of words -/

theorem step_eq_of_plain (plain : Line.isTrace text = false) (index : Nat) :
    r.step index text =
      r.countLine.takeLine (index + 1) text (Line.ofWords r.skipBlank (Text.words text)) := by
  simp [step, Line.ofText, plain]

theorem step_eq_of_malformed (plain : Line.isTrace text = false)
    (words : (Text.words text).length % 2 = 1 ∨
      (Text.words text).length = 0 ∧ r.skipBlank = false) (index : Nat) :
    r.step index text =
      (r.countLine, .rejected (.format (index + 1) (Text.words text).length text)) := by
  rw [step_eq_of_plain plain]
  obtain hodd | ⟨hzero, hskip⟩ := words
  · rw [Line.ofWords, (Line.pairUp?_eq_none_iff _).2 hodd]
    rfl
  · rw [List.length_eq_zero_iff.1 hzero, hskip]
    rfl

theorem step_eq_of_blank (plain : Line.isTrace text = false) (words : (Text.words text).length = 0)
    (skip : r.skipBlank = true) (index : Nat) :
    r.step index text = ({ r with tally := r.tally.countLine.countBlank }, .taken) := by
  have hkind : Line.ofWords r.skipBlank (Text.words text) = .blank := by
    rw [List.length_eq_zero_iff.1 words, skip]
    rfl
  rw [step_eq_of_plain plain, hkind]
  rfl

/-- A line with one register closes a snapshot if its register is the counter and the snapshot holds
one. -/
theorem takeSingle_eq {name value : Text} (hr : registers text = [(name, value)]) (index : Nat) :
    r.countLine.takeSingle (index + 1) name value =
      if r.closedBy text = true then (r.reopen text).close (index + 1) r.assembly.snapshot
      else (r.gather text, .taken) := by
  have hcloses : r.assembly.closes name = r.closedBy text := by
    simp [Assembly.closes, closedBy, Recording.isCounterLine, hr]
  have hassembly : r.countLine.assembly = r.assembly := rfl
  rw [takeSingle, Assembly.single, hassembly, hcloses]
  by_cases hclosed : r.closedBy text = true
  · -- a line closes a snapshot only if there is one, since it holds the counter
    have hheld : r.assembly.current? = some r.assembly.snapshot :=
      current?_of_contains (closedBy_eq_true_iff.1 hclosed).2
    have hnew : Assoc.empty.insert name value = Assoc.ofList (registers text) := by
      rw [hr]; rfl
    simp only [if_pos hclosed, hheld, hnew]
    rfl
  · have hadd : r.assembly.snapshot.insert name value =
        r.assembly.snapshot.insertAll (registers text) := by
      rw [hr]; rfl
    simp only [if_neg hclosed, hadd]
    rfl

/-- A line with several registers closes nothing. -/
theorem closedBy_of_several {e f : Register} {es : List Register}
    (hr : registers text = e :: f :: es) : r.closedBy text = false := by
  simp [closedBy, Recording.isCounterLine, hr]

/-- A register line closes a snapshot, or it is gathered. -/
theorem step_eq_of_registers (some : registers text ≠ []) (index : Nat) :
    r.step index text =
      if r.closedBy text = true then (r.reopen text).close (index + 1) r.assembly.snapshot
      else (r.gather text, .taken) := by
  rw [step_eq_of_plain (Recording.registers_ne_nil_iff.1 some).1, Line.ofWords,
    Recording.pairUp?_words_of_registers some]
  rcases hr : registers text with _ | ⟨⟨name, value⟩, _ | ⟨f, es⟩⟩
  · exact absurd hr some
  · exact takeSingle_eq hr index
  · rw [closedBy_of_several hr, gather, hr]
    rfl

theorem step_eq_of_closedBy (closed : r.closedBy text = true) (index : Nat) :
    r.step index text = (r.reopen text).close (index + 1) r.assembly.snapshot := by
  rw [step_eq_of_registers (registers_ne_nil_of_closedBy closed), if_pos closed]

/-- A register line that closes nothing is gathered. -/
theorem step_eq_gather (hr : registers text ≠ []) (hopen : r.closedBy text = false)
    (index : Nat) : r.step index text = (r.gather text, .taken) := by
  rw [step_eq_of_registers hr, if_neg (by simp [hopen])]

/-! ### Closed snapshots -/

variable {s : Snapshot} {line : Nat}

theorem close_eq_of_error {reason : AttributionFault} (hart : s.core = .error reason) :
    r.close line s = (r, .rejected (.attribution line reason)) := by
  rw [close, streamOfSnapshot, hart]

theorem close_eq_of_outOfRange (hart : s.core = .ok core) (range : r.cores ≤ core) :
    r.close line s = (r, .rejected (.coreOutOfRange line core r.cores)) := by
  rw [close, streamOfSnapshot, hart]
  simp only [streamOf_eq, if_neg (Int.not_lt.2 range)]
  rfl

theorem close_eq_of_neg (hart : s.core = .ok core) (range : core < 0) :
    r.close line s = ({ r with tally := r.tally.countDropped }, .dropped core) := by
  have hlt : core < r.cores := by omega
  rw [close, streamOfSnapshot, hart]
  simp only [streamOf_eq, if_pos hlt, toNat?_of_neg range]
  rfl

theorem close_eq_of_tracked {core : Nat} (hart : s.core = .ok core) (range : core < r.cores) :
    let block := Block.between core (r.baselines.get? core) s
    r.close line s =
      ({ r with
          baselines := r.baselines.set core s
          timeline := r.timeline.push (.block block)
          tally := r.tally.countBlock core block.newCount block.changedCount },
        .rendered block) := by
  have hlt : (core : Int) < r.cores := Int.ofNat_lt.2 range
  rw [close, streamOfSnapshot, hart]
  simp only [streamOf_eq, if_pos hlt]
  rfl

/-! ## A step is one of them -/

/-- A step does what the one of the ten does that is possible. -/
theorem step_eq_of_spec {index : Nat} {out : Run × Outcome} (h : Step r index text out) :
    r.step index text = out := by
  cases h with
  | badToken trace token => exact step_eq_of_badToken trace token index
  | traceOutOfRange trace token range =>
    rw [step_eq_of_token trace token, if_neg (Int.not_lt.2 range)]
  | copied trace token range => rw [step_eq_of_token trace token, if_pos range]
  | malformed plain words => exact step_eq_of_malformed plain words index
  | blank plain words skip => exact step_eq_of_blank plain words skip index
  | gathered some open_ => exact step_eq_gather some open_ index
  | unattributed closed hart =>
    rw [step_eq_of_closedBy closed]
    exact close_eq_of_error hart
  | snapshotOutOfRange closed hart range =>
    rw [step_eq_of_closedBy closed]
    exact close_eq_of_outOfRange hart range
  | dropped closed hart range =>
    rw [step_eq_of_closedBy closed]
    exact close_eq_of_neg hart range
  | rendered closed hart range diff =>
    rw [step_eq_of_closedBy closed, diff]
    exact close_eq_of_tracked hart range

/-- For a line that closes a snapshot, the hart number of the snapshot decides. -/
theorem exists_spec_of_closedBy (closed : r.closedBy text = true) (index : Nat) :
    ∃ out, Step r index text out := by
  cases hart : r.assembly.snapshot.core with
  | error reason => exact ⟨_, .unattributed closed hart⟩
  | ok core =>
    by_cases range : r.cores ≤ core
    · exact ⟨_, .snapshotOutOfRange closed hart range⟩
    · cases core with
      | negSucc n => exact ⟨_, .dropped closed hart (Int.negSucc_lt_zero n)⟩
      | ofNat n => exact ⟨_, .rendered closed hart (Int.ofNat_lt.1 (Int.not_le.1 range)) rfl⟩

/-- One of the ten is always possible. -/
theorem exists_spec (r : Run) (index : Nat) (text : Text) : ∃ out, Step r index text out := by
  cases trace : Line.isTrace text with
  | true =>
    cases token : traceCore text with
    | error reason => exact ⟨_, .badToken trace token⟩
    | ok core =>
      by_cases range : r.cores ≤ core
      · exact ⟨_, .traceOutOfRange trace token range⟩
      · exact ⟨_, .copied trace token (Int.not_le.1 range)⟩
  | false =>
    by_cases hodd : (Text.words text).length % 2 = 1
    · exact ⟨_, .malformed trace (.inl hodd)⟩
    by_cases some : registers text = []
    · have hzero := Recording.length_words_of_registers_eq_nil trace hodd some
      cases skip : r.skipBlank with
      | false => exact ⟨_, .malformed trace (.inr ⟨hzero, skip⟩)⟩
      | true => exact ⟨_, .blank trace hzero skip⟩
    · cases closed : r.closedBy text with
      | false => exact ⟨_, .gathered some closed⟩
      | true => exact exists_spec_of_closedBy closed index

/-- Every line does one of the ten things. -/
theorem step_spec (r : Run) (index : Nat) (text : Text) :
    Step r index text (r.step index text) := by
  obtain ⟨out, h⟩ := exists_spec r index text
  rwa [step_eq_of_spec h]

/-! ## What is rejected -/

/-- A trace line is rejected for its hart token alone. -/
theorem fault?_of_isTrace (ht : Line.isTrace text = true) (index : Nat) :
    (r.step index text).2.fault? =
      match traceCore text with
      | .error reason => some (.traceToken (index + 1) text reason)
      | .ok core =>
        if r.cores ≤ core then some (.coreOutOfRange (index + 1) core r.cores) else none := by
  cases htoken : traceCore text with
  | error reason =>
    rw [step_eq_of_spec (.badToken ht htoken)]
    rfl
  | ok core =>
    by_cases hrange : r.cores ≤ core
    · rw [step_eq_of_spec (.traceOutOfRange ht htoken hrange)]
      exact (if_pos hrange).symm
    · rw [step_eq_of_spec (.copied ht htoken (Int.not_le.1 hrange))]
      exact (if_neg hrange).symm

/-- A line that closes a snapshot is rejected for the snapshot's hart number alone. -/
theorem fault?_of_closedBy (hc : r.closedBy text = true) (index : Nat) :
    (r.step index text).2.fault? =
      match r.assembly.snapshot.core with
      | .error reason => some (.attribution (index + 1) reason)
      | .ok core =>
        if r.cores ≤ core then some (.coreOutOfRange (index + 1) core r.cores) else none := by
  cases hart : r.assembly.snapshot.core with
  | error reason =>
    rw [step_eq_of_spec (.unattributed hc hart)]
    rfl
  | ok core =>
    by_cases hrange : r.cores ≤ core
    · rw [step_eq_of_spec (.snapshotOutOfRange hc hart hrange)]
      exact (if_pos hrange).symm
    · simp only [if_neg hrange]
      cases core with
      | negSucc n =>
        rw [step_eq_of_spec (.dropped hc hart (Int.negSucc_lt_zero n))]
        rfl
      | ofNat n =>
        have hlt : n < r.cores := Int.ofNat_lt.1 (Int.not_le.1 hrange)
        rw [step_eq_of_spec (.rendered hc hart hlt rfl)]
        rfl

/-- Any other line is rejected if its words are no pairs, or blank lines are not skipped. -/
theorem fault?_of_plain (ht : Line.isTrace text = false) (hc : r.closedBy text = false)
    (index : Nat) :
    (r.step index text).2.fault? =
      if (Text.words text).length % 2 = 1 ∨ (Text.words text).length = 0 ∧ r.skipBlank = false then
        some (.format (index + 1) (Text.words text).length text)
      else none := by
  by_cases hwords : (Text.words text).length % 2 = 1 ∨
      (Text.words text).length = 0 ∧ r.skipBlank = false
  · rw [step_eq_of_spec (.malformed ht hwords), if_pos hwords]
    rfl
  · rw [if_neg hwords]
    obtain ⟨heven, hblank⟩ := not_or.1 hwords
    by_cases hr : registers text = []
    · have hzero := Recording.length_words_of_registers_eq_nil ht heven hr
      have hskip : r.skipBlank = true := by simpa [hzero] using hblank
      rw [step_eq_of_spec (.blank ht hzero hskip)]
      rfl
    · rw [step_eq_gather hr hc]
      rfl

end Run

end HartTimeline
