import HartTimeline.Proofs.Diff.Reading
import HartTimeline.Proofs.Run.After
import Mathlib.Algebra.GroupWithZero.Nat

/-!
# The counters and the timeline

A run counts what it writes: the trace lines, the blocks and the changes in them, in all and for
each core. In every state that lines can lead to, rejected ones among them, the counters are those
that someone would find who went through the entries of the timeline.

Main statements: `Audited.step`, one line keeps the counters and the entries together, and
`Audited.after`, so do any number of lines.
-/

namespace HartTimeline

/-! ## Rows of counters from entries -/

/-- The counters of a core's stream, from the entries. -/
def CoreTally.ofEntries (es : List Entry) (core : Nat) : CoreTally where
  core := core
  traceLines := es.countP fun e => !e.isBlock && e.core? = some core
  snapshots := (Timeline.blocksOf core es).length
  newRegisters := ((Timeline.blocksOf core es).map Block.newCount).sum
  changedRegisters := ((Timeline.blocksOf core es).map Block.changedCount).sum

namespace CoreTally

/-- A trace line counts for its own core. -/
theorem ofEntries_concat_trace (es : List Entry) (text : Text) (core? : Option Nat) (core : Nat) :
    ofEntries (es ++ [.trace text core?]) core =
      if core? = some core then
        { ofEntries es core with traceLines := (ofEntries es core).traceLines + 1 }
      else ofEntries es core := by
  by_cases h : core? = some core <;>
    simp [ofEntries, Timeline.blocksOf_append, Entry.isBlock, Entry.core?, h]

/-- A block counts for its own core, with its changes. -/
theorem ofEntries_concat_block (es : List Entry) (b : Block) (core : Nat) :
    ofEntries (es ++ [.block b]) core =
      if b.core = core then
        { ofEntries es core with
          snapshots := (ofEntries es core).snapshots + 1
          newRegisters := (ofEntries es core).newRegisters + b.newCount
          changedRegisters := (ofEntries es core).changedRegisters + b.changedCount }
      else ofEntries es core := by
  by_cases h : b.core = core <;>
    simp [ofEntries, Timeline.blocksOf_append, Entry.isBlock, h]

/-- Changing the row of one core among rows that are given core by core. -/
theorem modify_map_range {α : Type} (n : Nat) (row : Nat → α) (change : α → α) (core : Nat) :
    ((List.range n).map row).modify core change =
      (List.range n).map fun i => if core = i then change (row i) else row i := by
  apply List.ext_getElem
  · simp
  · intro i hi hi'
    simp [List.getElem_modify]

end CoreTally

open CoreTally (ofEntries)

/-! ## The invariant -/

/-- The counters of a run are what its timeline shows. -/
structure Audited (r : Run) : Prop where
  rows : r.tally.cores = (List.range r.cores).map (ofEntries r.timeline.entries.toList)
  traces : r.tally.traceLines = r.timeline.entries.toList.countP fun e => !e.isBlock
  unattributed : r.tally.unattributedTraceLines =
    r.timeline.entries.toList.countP fun e => e.core? = none
  blocks : r.tally.closedSnapshots =
    r.tally.droppedSnapshots + r.timeline.entries.toList.countP Entry.isBlock

namespace Audited

variable {r : Run}

theorem start (cores : Nat) (skipBlank : Bool) : Audited (Run.start cores skipBlank) where
  rows := by
    rw [Run.cores_start]
    rfl
  traces := rfl
  unattributed := rfl
  blocks := rfl

theorem length_rows (h : Audited r) : r.tally.cores.length = r.cores := by
  rw [h.rows, List.length_map, List.length_range]

/-- One more trace line is counted where it is copied to. -/
theorem copied (h : Audited r) (text : Text) (core? : Option Nat) :
    Audited { r with
      timeline := r.timeline.push (.trace text core?)
      tally := r.tally.countLine.countTrace core? } := by
  rw [Tally.countTrace_eq]
  refine ⟨?_, ?_, ?_, ?_⟩
  · rw [Timeline.toList_push]
    cases core? with
    | none =>
      show r.tally.cores = (List.range r.cores).map _
      rw [h.rows]
      apply List.map_congr_left
      intro core _
      rw [CoreTally.ofEntries_concat_trace, if_neg (by simp)]
    | some named =>
      show r.tally.cores.modify named _ = (List.range r.cores).map _
      rw [h.rows, CoreTally.modify_map_range]
      apply List.map_congr_left
      intro core _
      rw [CoreTally.ofEntries_concat_trace]
      simp only [Option.some.injEq]
  · show r.tally.traceLines + 1 = _
    rw [Timeline.toList_push, List.countP_append, h.traces]
    rfl
  · show r.tally.unattributedTraceLines + _ = _
    rw [Timeline.toList_push, List.countP_append, h.unattributed]
    cases core? <;> rfl
  · show r.tally.closedSnapshots = r.tally.droppedSnapshots + _
    rw [Timeline.toList_push, List.countP_append, h.blocks]
    rfl

/-- One more block is counted with its changes. -/
theorem rendered (h : Audited r) (text : Text) (block : Block) (s : Snapshot) :
    Audited { r.reopen text with
      baselines := r.baselines.set block.core s
      timeline := r.timeline.push (.block block)
      tally := (r.reopen text).tally.countBlock block.core block.newCount block.changedCount } := by
  refine ⟨?_, ?_, ?_, ?_⟩
  · show r.tally.cores.modify block.core _ = (List.range (r.baselines.set block.core s).cores).map _
    rw [Timeline.toList_push, Baselines.cores_set, h.rows, CoreTally.modify_map_range]
    apply List.map_congr_left
    intro core _
    rw [CoreTally.ofEntries_concat_block]
  · show r.tally.traceLines = _
    rw [Timeline.toList_push, List.countP_append, h.traces]
    rfl
  · show r.tally.unattributedTraceLines = _
    rw [Timeline.toList_push, List.countP_append, h.unattributed]
    rfl
  · show r.tally.closedSnapshots + 1 = r.tally.droppedSnapshots + _
    rw [Timeline.toList_push, List.countP_append, h.blocks]
    rfl

/-- One line keeps the counters and the entries together. -/
theorem step (h : Audited r) (index : Nat) (text : Text) : Audited (r.step index text).1 := by
  have hspec := r.step_spec index text
  generalize r.step index text = out at hspec
  cases hspec with
  | copied => exact h.copied _ _
  | dropped =>
    refine ⟨h.rows, h.traces, h.unattributed, ?_⟩
    have hblocks := h.blocks
    show r.tally.closedSnapshots + 1 =
      r.tally.droppedSnapshots + 1 + r.timeline.entries.toList.countP Entry.isBlock
    omega
  | rendered closed hart range diff =>
    subst diff
    exact h.rendered text (Block.between _ _ _) _
  -- the other lines write nothing and are counted in none of these counters
  | _ => exact ⟨h.rows, h.traces, h.unattributed, h.blocks⟩

/-- After any lines, accepted or not, the counters are what the timeline shows. -/
theorem after (h : Audited r) (lines : List (Text × Nat)) : Audited (r.after lines) :=
  Run.after_induction (fun _ index text h => h.step index text) h lines

end Audited

end HartTimeline
