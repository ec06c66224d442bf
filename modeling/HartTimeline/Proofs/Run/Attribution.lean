import HartTimeline.Proofs.HartToken
import HartTimeline.Proofs.Run.After

/-!
# One hart, one core

A hart number is found in the token of a trace line and in a register of a snapshot. Wherever it is
found, it decides alone what becomes of the line: whether it is shown, in which core's stream, and
for what fault it is rejected.

Main statement: `Run.same_hart_same_fate`, a trace line and a snapshot of one hart fare alike.
-/

namespace HartTimeline

open Text (Denotes int64Min int64Max)

/-! ## One more entry in the streams -/

namespace Timeline

/-- A text comes after what is there, in the global stream and in the stream of one core, and every
other core's stream stays as it is. -/
structure AddsFor (t t' : Timeline) (core : Nat) (piece : Text) : Prop where
  global : t'.globalStream = t.globalStream ++ piece
  own : ∃ stream, t.coreStream? core = some stream ∧
    t'.coreStream? core = some (stream ++ piece)
  others : ∀ other, other ≠ core → t'.coreStream? other = t.coreStream? other

variable {t : Timeline} {e : Entry} {core : Nat}

theorem addsFor_push (he : e.core? = some core) (hcore : core < t.cores) :
    t.AddsFor (t.push e) core e.render where
  global := globalStream_push t e
  own := by
    refine ⟨t.coreStream core, if_pos hcore, ?_⟩
    unfold coreStream?
    rw [cores_push, if_pos hcore, coreStream_push, if_pos he]
  others := by
    intro other hother
    have hne : e.core? ≠ some other := by
      rw [he]
      intro h
      exact hother (Option.some.inj h).symm
    unfold coreStream?
    rw [coreStream_push, if_neg hne]
    rfl

end Timeline

/-! ## Lines that give the program counter alone -/

namespace Line

variable {text : Text}

/-- A text that is spread from words begins with white space or as its first word does. -/
theorem head?_of_isSpread {w : Text} {ws : List Text} (h : Text.IsSpread (w :: ws) text) :
    ∀ c ∈ text.head?, Text.isBlank c = true ∨ c ∈ w.head? := by
  obtain ⟨front, rest, rfl, hfront, hw, -⟩ :=
    Text.exists_of_words_eq_cons (Text.words_of_isSpread h)
  obtain ⟨d, w', rfl, -⟩ := hw.exists_cons
  intro c hc
  cases front with
  | nil => exact Or.inr hc
  | cons b front =>
    obtain rfl : b = c := Option.some.inj hc
    exact Or.inl (hfront b List.mem_cons_self)

/-- The name of the program counter begins with another letter than a trace line. -/
theorem not_isTrace_of_gives_counter {value : Text} (h : Gives [(counterRegister, value)] text) :
    isTrace text = false := by
  rw [Bool.eq_false_iff]
  intro htrace
  rcases head?_of_isSpread h 'r' (head?_of_isTrace htrace) with hblank | hname
  · exact absurd hblank (by decide)
  · exact absurd (Option.some.inj hname) (by decide)

end Line

namespace Recording

variable {text : Text} {gained : List Register}

theorem registers_of_gives (h : Line.Gives gained text) (hplain : Line.isTrace text = false) :
    registers text = gained := by
  unfold registers
  rw [hplain, Line.pairUp?_words_eq_some_iff.2 h]
  rfl

theorem isCounterLine_of_gives {value : Text} (h : Line.Gives [(counterRegister, value)] text) :
    isCounterLine text = true := by
  unfold isCounterLine
  rw [registers_of_gives h (Line.not_isTrace_of_gives_counter h)]
  rfl

end Recording

namespace Run

variable {r : Run} {copied closing label numeral value : Text} {sep : Char}

/-! ## Where a hart number is found -/

/-- A trace line has the core of the numeral in its token. -/
theorem traceCore_of_numeral (hlabel : ':' ∉ label) (hnumeral : ':' ∉ numeral) (hsep : sep ≠ ':')
    (htoken : IsSecondWord (label ++ ':' :: (numeral ++ [sep])) copied) :
    traceCore copied = (hartCore numeral).mapError (HartTokenFault.ofNumber numeral) := by
  rw [traceCore_of_isSecondWord htoken]
  exact tokenCore_of_holdsNumeral
    ⟨label, sep, [], rfl, hlabel, hnumeral, hsep, Or.inl rfl⟩

/-- A snapshot has the core of the numeral in its hart register. -/
theorem core_of_numeral {s : Snapshot} (h : s.get? hartRegister = some numeral) :
    s.core = (hartCore numeral).mapError (AttributionFault.ofNumber numeral) := by
  unfold Snapshot.core
  rw [h]

theorem closedBy_of_gives (hgives : Line.Gives [(counterRegister, value)] closing)
    (hheld : r.assembly.snapshot.contains counterRegister = true) : r.closedBy closing = true :=
  closedBy_eq_true_iff.2 ⟨Recording.isCounterLine_of_gives hgives, hheld⟩

/-! ## The same core or the same fault -/

section

variable (htrace : Line.isTrace copied = true) (hclosed : r.closedBy closing = true)
include htrace hclosed

/-- Both are shown in the stream of a tracked core. -/
theorem shown_alike (index : Nat) {core : Nat} (hcopied : traceCore copied = .ok core)
    (hheld : r.assembly.snapshot.core = .ok core) (hrange : core < r.cores)
    (hstreams : core < r.timeline.cores) :
    ∃ block : Block, block.core = core ∧
      (r.step index copied).2 = .taken ∧ (r.step index closing).2 = .rendered block ∧
      r.timeline.AddsFor (r.step index copied).1.timeline core (copied ++ ['\n', '\n']) ∧
      r.timeline.AddsFor (r.step index closing).1.timeline core block.render := by
  have hlt : (core : Int) < r.cores := Int.ofNat_lt.2 hrange
  rw [step_eq_of_spec (.copied htrace hcopied hlt),
    step_eq_of_spec (.rendered hclosed hheld hrange rfl)]
  exact ⟨_, rfl, rfl, rfl, Timeline.addsFor_push rfl hstreams, Timeline.addsFor_push rfl hstreams⟩

/-- Neither is shown in any core's stream if the core is negative. -/
theorem unattributed_alike (index : Nat) {core : Int} (hcopied : traceCore copied = .ok core)
    (hheld : r.assembly.snapshot.core = .ok core) (hneg : core < 0) :
    (r.step index copied).2 = .taken ∧ (r.step index closing).2 = .dropped core ∧
      (r.step index copied).1.timeline.coreStreams = r.timeline.coreStreams ∧
      (r.step index closing).1.timeline.coreStreams = r.timeline.coreStreams := by
  have hlt : core < r.cores := by omega
  rw [step_eq_of_spec (.copied htrace hcopied hlt), step_eq_of_spec (.dropped hclosed hheld hneg),
    toNat?_of_neg hneg]
  exact ⟨rfl, rfl, Timeline.coreStreams_push _ _, rfl⟩

/-- Both are rejected for a core that is not tracked. -/
theorem outOfRange_alike (index : Nat) {core : Int} (hcopied : traceCore copied = .ok core)
    (hheld : r.assembly.snapshot.core = .ok core) (hrange : r.cores ≤ core) :
    (r.step index copied).2 = .rejected (.coreOutOfRange (index + 1) core r.cores) ∧
      (r.step index closing).2 = .rejected (.coreOutOfRange (index + 1) core r.cores) := by
  rw [step_eq_of_spec (.traceOutOfRange htrace hcopied hrange),
    step_eq_of_spec (.snapshotOutOfRange hclosed hheld hrange)]
  exact ⟨rfl, rfl⟩

/-- Both are rejected for what is wrong with the numeral. -/
theorem rejected_alike (index : Nat) {fault : HartNumberFault}
    (hcopied : traceCore copied = .error (.ofNumber numeral fault))
    (hheld : r.assembly.snapshot.core = .error (.ofNumber numeral fault)) :
    (r.step index copied).2 =
        .rejected (.traceToken (index + 1) copied (.ofNumber numeral fault)) ∧
      (r.step index closing).2 =
        .rejected (.attribution (index + 1) (.ofNumber numeral fault)) := by
  rw [step_eq_of_spec (.badToken htrace hcopied),
    step_eq_of_spec (.unattributed hclosed hheld)]
  exact ⟨rfl, rfl⟩

end

/-- A trace line and a snapshot of one hart fare alike. Let a snapshot be open that holds the
program counter, and let its hart register hold what stands for the hart number in the token of a
trace line. Then the trace line, and a line with the program counter alone that comes in its place
and closes the snapshot, are both shown, in the global stream and in that of the core below the hart
number, and in no other core's; or in no core's stream, if there is no core below it; or they are
both rejected, for the same core that is not tracked, or because what should be a hart number is
none, or because it is the one that has no core. -/
theorem same_hart_same_fate (cores : Nat) (skipBlank : Bool) (lines : List (Text × Nat))
    (r : Run) (hr : r = (start cores skipBlank).after lines) (index : Nat)
    (copied closing label numeral value : Text) (sep : Char)
    (hcounter : r.assembly.snapshot.contains counterRegister = true)
    (hhart : r.assembly.snapshot.get? hartRegister = some numeral)
    (htrace : Text.of "riscv" <+: copied)
    (htoken : IsSecondWord (label ++ ':' :: (numeral ++ [sep])) copied)
    (hlabel : ':' ∉ label) (hnumeral : ':' ∉ numeral) (hsep : sep ≠ ':')
    (hclosing : Line.Gives [(counterRegister, value)] closing) :
    let traced := r.step index copied
    let closed := r.step index closing
    (∃ (core : Nat) (block : Block), Denotes numeral (core + 1) ∧ core < cores ∧
      block.core = core ∧ traced.2 = .taken ∧ closed.2 = .rendered block ∧
      r.timeline.AddsFor traced.1.timeline core (copied ++ ['\n', '\n']) ∧
      r.timeline.AddsFor closed.1.timeline core block.render) ∨
    (∃ hart, Denotes numeral hart ∧ int64Min < hart ∧ hart ≤ 0 ∧
      traced.2 = .taken ∧ closed.2 = .dropped (hart - 1) ∧
      traced.1.timeline.coreStreams = r.timeline.coreStreams ∧
      closed.1.timeline.coreStreams = r.timeline.coreStreams) ∨
    (∃ hart, Denotes numeral hart ∧ cores < hart ∧ hart ≤ int64Max ∧
      traced.2 = .rejected (.coreOutOfRange (index + 1) (hart - 1) cores) ∧
      closed.2 = .rejected (.coreOutOfRange (index + 1) (hart - 1) cores)) ∨
    ((∀ hart, Denotes numeral hart → hart < int64Min ∨ int64Max < hart) ∧
      traced.2 = .rejected (.traceToken (index + 1) copied (.notNumeric numeral)) ∧
      closed.2 = .rejected (.attribution (index + 1) (.notNumeric numeral))) ∨
    (Denotes numeral int64Min ∧
      traced.2 = .rejected (.traceToken (index + 1) copied (.noCore numeral)) ∧
      closed.2 = .rejected (.attribution (index + 1) (.noCore numeral))) := by
  intro traced closed
  have htrace : Line.isTrace copied = true := Line.isTrace_eq_true_iff.2 htrace
  have hclosed : r.closedBy closing = true := closedBy_of_gives hclosing hcounter
  have hcopied := traceCore_of_numeral hlabel hnumeral hsep htoken
  have hheld := core_of_numeral hhart
  obtain ⟨hcores, hstreams⟩ := cores_after_start cores skipBlank lines
  rw [← hr] at hcores hstreams
  rcases denotes_cases numeral with ⟨hart, hdenotes, hlow, hhigh⟩ | hleast | hbeyond
  · rw [hartCore_of_denotes hdenotes hlow hhigh] at hcopied hheld
    by_cases hrange : (r.cores : Int) ≤ hart - 1
    · -- beyond the tracked cores
      have hboth := outOfRange_alike htrace hclosed index hcopied hheld hrange
      rw [hcores] at hboth hrange
      exact Or.inr (Or.inr (Or.inl ⟨hart, hdenotes, by omega, hhigh, hboth⟩))
    by_cases hneg : hart - 1 < 0
    · -- below the first core
      exact Or.inr (Or.inl ⟨hart, hdenotes, hlow, by omega,
        unattributed_alike htrace hclosed index hcopied hheld hneg⟩)
    · obtain ⟨core, hcore⟩ : ∃ core : Nat, hart - 1 = core := ⟨(hart - 1).toNat, by omega⟩
      have hhart : hart = core + 1 := by omega
      have hlt : core < r.cores := by omega
      rw [hcore] at hcopied hheld
      obtain ⟨block, hblock, hboth⟩ := shown_alike htrace hclosed index hcopied hheld hlt
        (by omega)
      exact Or.inl ⟨core, block, hhart ▸ hdenotes, by omega, hblock, hboth⟩
  · rw [hartCore_of_denotes_least hleast] at hcopied hheld
    exact Or.inr (Or.inr (Or.inr (Or.inr
      ⟨hleast, rejected_alike htrace hclosed index hcopied hheld⟩)))
  · rw [hartCore_of_beyond hbeyond] at hcopied hheld
    exact Or.inr (Or.inr (Or.inr (Or.inl
      ⟨hbeyond, rejected_alike htrace hclosed index hcopied hheld⟩)))

/-- A run that has gathered a snapshot of the second hart, which is written with a sign and a
zero. -/
def secondHart : Run :=
  (start 2 false).after [(Text.of "mhartid +02", 0), (Text.of "pc 10", 1)]

/-- A trace line of the same hart goes to the stream where the snapshot goes. -/
theorem same_hart_same_fate_of_secondHart :
    let copied := Text.of "riscv: cpu:+02, nop"
    let closing := Text.of " pc 14"
    let block : Block := ⟨1, [.new (Text.of "mhartid") (Text.of "+02"),
      .new (Text.of "pc") (Text.of "10")]⟩
    (secondHart.step 2 copied).2 = .taken ∧ (secondHart.step 2 closing).2 = .rendered block ∧
      secondHart.timeline.AddsFor (secondHart.step 2 copied).1.timeline 1
        (Text.of "riscv: cpu:+02, nop\n\n") ∧
      secondHart.timeline.AddsFor (secondHart.step 2 closing).1.timeline 1
        (Text.of "Core 1:\nmhartid = +02\npc = 10\n\n") := by
  intro copied closing block
  have htoken : IsSecondWord (Text.of "cpu" ++ ':' :: (Text.of "+02" ++ [','])) copied :=
    ⟨Text.of "riscv:", [Text.of "nop"], Text.words_eq_iff.1 (by decide +kernel)⟩
  have hclosing : Line.Gives [(counterRegister, Text.of "14")] closing :=
    Line.pairUp?_words_eq_some_iff.1 (by decide +kernel)
  have htraced : (secondHart.step 2 copied).2 = .taken := by decide +kernel
  have hclosed : (secondHart.step 2 closing).2 = .rendered block := by decide +kernel
  have hfate := same_hart_same_fate 2 false _ secondHart rfl 2 copied closing (Text.of "cpu")
    (Text.of "+02") (Text.of "14") ',' (by decide +kernel) (by decide +kernel)
    (Line.isTrace_eq_true_iff.1 (by decide)) htoken (by decide) (by decide) (by decide) hclosing
  simp only [htraced, hclosed, reduceCtorEq, false_and, and_false, exists_false, or_false,
    Outcome.rendered.injEq] at hfate
  obtain ⟨core, block', -, -, hcore, -, hblock, hstreams⟩ := hfate
  rw [← hblock] at hcore hstreams
  rw [← hcore] at hstreams
  have hrender : block.render = Text.of "Core 1:\nmhartid = +02\npc = 10\n\n" := by decide +kernel
  rw [hrender] at hstreams
  exact ⟨htraced, hclosed, hstreams⟩

end Run

end HartTimeline
