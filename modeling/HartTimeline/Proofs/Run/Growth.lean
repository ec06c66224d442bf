import HartTimeline.Proofs.Run.After
import Mathlib.Data.List.Forall2
import Mathlib.Data.List.Infix

/-!
# Runs only grow

Whatever a line does to a run, entries are added behind those that are there and counters go up. A
snapshot that is open when the input ends is written nowhere, so that a log without its last lines
leaves less of the same.

Main statements: `Grows.after`, no lines take anything back, and `output_of_cut_log`, what a log
leaves that is cut at a line end.
-/

namespace HartTimeline

/-! ## Rows in pairs -/

theorem forall₂_trans {α : Type} {R : α → α → Prop} (hR : ∀ {a b c}, R a b → R b c → R a c)
    {l₁ l₂ l₃ : List α} (h : List.Forall₂ R l₁ l₂) (h' : List.Forall₂ R l₂ l₃) :
    List.Forall₂ R l₁ l₃ := by
  induction h generalizing l₃ with
  | nil => exact h'
  | cons hab _ ih =>
    cases h' with
    | cons hbc hrest => exact .cons (hR hab hbc) (ih hrest)

/-- Changing one row changes no other. -/
theorem forall₂_modify {α : Type} {R : α → α → Prop} (hrefl : ∀ a, R a a) {change : α → α}
    (hchange : ∀ a, R a (change a)) (l : List α) (i : Nat) :
    List.Forall₂ R l (l.modify i change) := by
  induction l generalizing i with
  | nil =>
    rw [List.modify_nil]
    exact .nil
  | cons a l ih =>
    cases i with
    | zero => exact .cons (hchange a) (List.forall₂_same.2 fun b _ => hrefl b)
    | succ i => exact .cons (hrefl a) (ih i)

/-! ## Counters that have gone up -/

/-- The counters of a core are at most those of another time. -/
structure CoreTally.AtMost (c c' : CoreTally) : Prop where
  core : c.core = c'.core
  traceLines : c.traceLines ≤ c'.traceLines
  snapshots : c.snapshots ≤ c'.snapshots
  newRegisters : c.newRegisters ≤ c'.newRegisters
  changedRegisters : c.changedRegisters ≤ c'.changedRegisters

/-- The counters of a run are at most those of another time. Discarded registers are counted at the
end of the input only, and left out here. -/
structure Tally.AtMost (t t' : Tally) : Prop where
  lines : t.lines ≤ t'.lines
  traceLines : t.traceLines ≤ t'.traceLines
  unattributedTraceLines : t.unattributedTraceLines ≤ t'.unattributedTraceLines
  registerLines : t.registerLines ≤ t'.registerLines
  blankLines : t.blankLines ≤ t'.blankLines
  closedSnapshots : t.closedSnapshots ≤ t'.closedSnapshots
  droppedSnapshots : t.droppedSnapshots ≤ t'.droppedSnapshots
  cores : List.Forall₂ CoreTally.AtMost t.cores t'.cores

theorem CoreTally.AtMost.refl (c : CoreTally) : AtMost c c :=
  ⟨rfl, Nat.le_refl _, Nat.le_refl _, Nat.le_refl _, Nat.le_refl _⟩

theorem CoreTally.AtMost.trans {c₁ c₂ c₃ : CoreTally} (h : AtMost c₁ c₂) (h' : AtMost c₂ c₃) :
    AtMost c₁ c₃ where
  core := h.core.trans h'.core
  traceLines := Nat.le_trans h.traceLines h'.traceLines
  snapshots := Nat.le_trans h.snapshots h'.snapshots
  newRegisters := Nat.le_trans h.newRegisters h'.newRegisters
  changedRegisters := Nat.le_trans h.changedRegisters h'.changedRegisters

namespace Tally

theorem AtMost.refl (t : Tally) : AtMost t t :=
  ⟨Nat.le_refl _, Nat.le_refl _, Nat.le_refl _, Nat.le_refl _, Nat.le_refl _, Nat.le_refl _,
    Nat.le_refl _, List.forall₂_same.2 fun c _ => .refl c⟩

theorem AtMost.trans {t₁ t₂ t₃ : Tally} (h : AtMost t₁ t₂) (h' : AtMost t₂ t₃) :
    AtMost t₁ t₃ where
  lines := Nat.le_trans h.lines h'.lines
  traceLines := Nat.le_trans h.traceLines h'.traceLines
  unattributedTraceLines := Nat.le_trans h.unattributedTraceLines h'.unattributedTraceLines
  registerLines := Nat.le_trans h.registerLines h'.registerLines
  blankLines := Nat.le_trans h.blankLines h'.blankLines
  closedSnapshots := Nat.le_trans h.closedSnapshots h'.closedSnapshots
  droppedSnapshots := Nat.le_trans h.droppedSnapshots h'.droppedSnapshots
  cores := forall₂_trans .trans h.cores h'.cores

theorem atMost_countLine (t : Tally) : t.AtMost t.countLine :=
  { AtMost.refl t with lines := Nat.le_succ _ }

theorem atMost_countBlank (t : Tally) : t.AtMost t.countBlank :=
  { AtMost.refl t with blankLines := Nat.le_succ _ }

theorem atMost_countRegisterLine (t : Tally) : t.AtMost t.countRegisterLine :=
  { AtMost.refl t with registerLines := Nat.le_succ _ }

theorem atMost_countDropped (t : Tally) : t.AtMost t.countDropped :=
  { AtMost.refl t with
    closedSnapshots := Nat.le_succ _
    droppedSnapshots := Nat.le_succ _ }

theorem atMost_countTrace (t : Tally) (core? : Option Nat) : t.AtMost (t.countTrace core?) := by
  cases core? with
  | none =>
    exact { AtMost.refl t with
      traceLines := Nat.le_succ _
      unattributedTraceLines := Nat.le_succ _ }
  | some core =>
    refine { AtMost.refl t with traceLines := Nat.le_succ _, cores := ?_ }
    apply forall₂_modify .refl
    intro c
    exact { CoreTally.AtMost.refl c with traceLines := Nat.le_succ _ }

theorem atMost_countBlock (t : Tally) (core new changed : Nat) :
    t.AtMost (t.countBlock core new changed) := by
  refine { AtMost.refl t with closedSnapshots := Nat.le_succ _, cores := ?_ }
  apply forall₂_modify .refl
  intro c
  exact { CoreTally.AtMost.refl c with
    snapshots := Nat.le_succ _
    newRegisters := Nat.le_add_right _ _
    changedRegisters := Nat.le_add_right _ _ }

end Tally

namespace Run

/-! ## Runs that have grown -/

/-- A run holds all that it held at another time, and maybe more. -/
structure Grows (r r' : Run) : Prop where
  entries : r.timeline.entries.toList <+: r'.timeline.entries.toList
  tally : r.tally.AtMost r'.tally

namespace Grows

variable {r r' r₁ : Run}

theorem refl (r : Run) : Grows r r :=
  ⟨List.prefix_refl _, .refl _⟩

theorem trans (h : Grows r r₁) (h' : Grows r₁ r') : Grows r r' :=
  ⟨h.entries.trans h'.entries, h.tally.trans h'.tally⟩

/-- A run grows with its timeline as it is. -/
theorem of_tally (htimeline : r'.timeline = r.timeline) (htally : r.tally.AtMost r'.tally) :
    Grows r r' := by
  refine ⟨?_, htally⟩
  rw [htimeline]

/-- A run grows by one entry. -/
theorem of_push {entry : Entry} (htimeline : r'.timeline = r.timeline.push entry)
    (htally : r.tally.AtMost r'.tally) : Grows r r' := by
  refine ⟨?_, htally⟩
  rw [htimeline, Timeline.toList_push]
  exact List.prefix_append _ _

/-- One line takes nothing back. -/
theorem step (r : Run) (index : Nat) (text : Text) : Grows r (r.step index text).1 := by
  have hspec := r.step_spec index text
  generalize r.step index text = out at hspec
  have hline := r.tally.atMost_countLine
  have hregister := hline.trans (Tally.atMost_countRegisterLine _)
  cases hspec with
  | badToken | traceOutOfRange | malformed => exact .of_tally rfl hline
  | copied => exact .of_push rfl (hline.trans (Tally.atMost_countTrace _ _))
  | blank => exact .of_tally rfl (hline.trans (Tally.atMost_countBlank _))
  | gathered | unattributed | snapshotOutOfRange => exact .of_tally rfl hregister
  | dropped => exact .of_tally rfl (hregister.trans (Tally.atMost_countDropped _))
  | rendered => exact .of_push rfl (hregister.trans (Tally.atMost_countBlock _ _ _ _))

/-- No lines take anything back, whether they are accepted or not. -/
theorem after (r : Run) (lines : List (Text × Nat)) : Grows r (r.after lines) :=
  after_induction (fun r' index text h => h.trans (step r' index text)) (.refl r) lines

/-- All that is written of some entries is written of more. -/
theorem render_prefix {es fs : List Entry} (h : es <+: fs) :
    Timeline.render es <+: Timeline.render fs := by
  obtain ⟨rest, rfl⟩ := h
  unfold Timeline.render
  rw [List.flatMap_append]
  exact List.prefix_append _ _

theorem globalStream (h : Grows r r') : r.timeline.globalStream <+: r'.timeline.globalStream :=
  render_prefix h.entries

theorem coreStream (h : Grows r r') (core : Nat) :
    r.timeline.coreStream core <+: r'.timeline.coreStream core :=
  render_prefix (h.entries.filter _)

end Grows

/-! ## A log without its last lines -/

variable {cores : Nat} {skipBlank : Bool} {p : Text}

/-- The first fault of a log is found before the lines that come after it are read. -/
theorem ofLog_append_of_error {fault : LogFault} (hp : p = [] ∨ p.getLast? = some '\n')
    (h : Report.ofLog cores skipBlank p = .error fault) (q : Text) :
    Report.ofLog cores skipBlank (p ++ q) = .error fault := by
  rw [ofLog_eq_error_iff] at h ⊢
  rw [Text.lines_append hp, steps_append, h]

/-- A run that reads a log in two parts has grown since the first part. -/
theorem grows_of_append (hp : p = [] ∨ p.getLast? = some '\n') (q : Text) :
    Grows ((start cores skipBlank).after (Text.lines p).zipIdx)
      ((start cores skipBlank).after (Text.lines (p ++ q)).zipIdx) := by
  rw [Text.lines_append hp, List.zipIdx_append, after_append]
  exact .after _ _

/-- Cutting a log at a line end only cuts the output. If what is left of it is rejected, the whole
log is rejected for the same fault. If the whole log is read to its end, so is what is left; it
leaves streams with which those of the whole log begin, and counters that are at most those of the
whole log. -/
theorem output_of_cut_log (cores : Nat) (skipBlank : Bool) (p q : Text)
    (hp : p = [] ∨ p.getLast? = some '\n') :
    (∀ fault, Report.ofLog cores skipBlank p = .error fault →
      Report.ofLog cores skipBlank (p ++ q) = .error fault) ∧
    ∀ whole, Report.ofLog cores skipBlank (p ++ q) = .ok whole →
      ∃ part, Report.ofLog cores skipBlank p = .ok part ∧
        part.timeline.globalStream <+: whole.timeline.globalStream ∧
        (∀ core < cores, ∃ stream stream', part.timeline.coreStream? core = some stream ∧
          whole.timeline.coreStream? core = some stream' ∧ stream <+: stream') ∧
        part.tally.AtMost whole.tally := by
  refine ⟨fun fault h => ofLog_append_of_error hp h q, fun whole h => ?_⟩
  obtain ⟨haccepts, rfl⟩ := ofLog_eq_ok_iff.1 h
  rw [Text.lines_append hp, List.zipIdx_append, accepts_append] at haccepts
  have hgrows : Grows ((start cores skipBlank).after (Text.lines p).zipIdx) _ :=
    grows_of_append hp q
  -- both runs have a stream for every tracked core
  have hcores : ∀ lines, ((start cores skipBlank).after lines).timeline.cores = cores :=
    fun lines => (cores_after_start cores skipBlank lines).2
  refine ⟨_, ofLog_eq_ok_iff.2 ⟨haccepts.1, rfl⟩, hgrows.globalStream, fun core hcore => ?_,
    { hgrows.tally with }⟩
  refine ⟨_, _, if_pos ?_, if_pos ?_, hgrows.coreStream core⟩
  · exact lt_of_lt_of_eq hcore (hcores _).symm
  · exact lt_of_lt_of_eq hcore (hcores _).symm

/-- The first lines of a log, up to the middle of a snapshot. -/
def cutInSnapshot : Text :=
  Text.of "mhartid 1\npc 10\nriscv: hart:1, nop\r\nsp 5\n"

/-- Of the open snapshot nothing is written before the rest of the log closes it. -/
theorem output_of_cutInSnapshot :
    ∃ part whole, Report.ofLog 1 false cutInSnapshot = .ok part ∧
      Report.ofLog 1 false (cutInSnapshot ++ Text.of "pc 14") = .ok whole ∧
      part.timeline.globalStream = Text.of "riscv: hart:1, nop\n\n" ∧
      part.timeline.globalStream <+: whole.timeline.globalStream ∧
      whole.timeline.globalStream = Text.of
        "riscv: hart:1, nop\n\nCore 0:\nmhartid = 1\npc = 10\nsp = 5\n\n" := by
  have hend : cutInSnapshot.getLast? = some '\n' := by decide +kernel
  have hstreams : (Report.ofLog 1 false (cutInSnapshot ++ Text.of "pc 14")).toOption.map
      (fun report => report.timeline.globalStream) = some (Text.of
        "riscv: hart:1, nop\n\nCore 0:\nmhartid = 1\npc = 10\nsp = 5\n\n") := by decide +kernel
  have hpartStream : (Report.ofLog 1 false cutInSnapshot).toOption.map
      (fun report => report.timeline.globalStream) =
        some (Text.of "riscv: hart:1, nop\n\n") := by decide +kernel
  cases h : Report.ofLog 1 false (cutInSnapshot ++ Text.of "pc 14") with
  | error fault =>
    rw [h] at hstreams
    cases hstreams
  | ok whole =>
    obtain ⟨part, hpart, hprefix, -⟩ :=
      (output_of_cut_log 1 false cutInSnapshot (Text.of "pc 14") (.inr hend)).2 whole h
    rw [h] at hstreams
    rw [hpart] at hpartStream
    exact ⟨part, whole, hpart, rfl, Option.some.inj hpartStream, hprefix,
      Option.some.inj hstreams⟩

end Run

end HartTimeline
