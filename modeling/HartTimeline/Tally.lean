import HartTimeline.Text.Charset

/-!
# Counters

What a run has seen and written: lines by kind, snapshots by fate, and for every tracked core the
entries of its stream.
-/

namespace HartTimeline

/-- The counters of one core's stream. -/
structure CoreTally where
  core : Nat
  traceLines : Nat := 0
  snapshots : Nat := 0
  newRegisters : Nat := 0
  changedRegisters : Nat := 0
deriving DecidableEq, Repr

/-- The counters of a run. Trace lines of no core are unattributed, closed snapshots of no core are
dropped, and the registers of a snapshot that never closed are discarded. -/
structure Tally where
  lines : Nat := 0
  traceLines : Nat := 0
  unattributedTraceLines : Nat := 0
  registerLines : Nat := 0
  blankLines : Nat := 0
  closedSnapshots : Nat := 0
  droppedSnapshots : Nat := 0
  discardedRegisters : Nat := 0
  cores : List CoreTally := []
deriving DecidableEq, Repr

namespace Tally

/-- All counters at zero, with a row for every tracked core. -/
def initial (cores : Nat) : Tally :=
  { cores := (List.range cores).map fun core => { core } }

/-- The counters with the row of one core changed. -/
def modifyCore (t : Tally) (core : Nat) (f : CoreTally → CoreTally) : Tally :=
  { t with cores := t.cores.modify core f }

/-- The counters after one more line. -/
def countLine (t : Tally) : Tally :=
  { t with lines := t.lines + 1 }

/-- The counters after one more blank line. -/
def countBlank (t : Tally) : Tally :=
  { t with blankLines := t.blankLines + 1 }

/-- The counters after one more register line. -/
def countRegisterLine (t : Tally) : Tally :=
  { t with registerLines := t.registerLines + 1 }

/-- The counters after one more trace line of a core or of none. -/
def countTrace (t : Tally) : Option Nat → Tally
  | some core =>
    { t with traceLines := t.traceLines + 1 }.modifyCore core fun c =>
      { c with traceLines := c.traceLines + 1 }
  | none =>
    { t with
      traceLines := t.traceLines + 1
      unattributedTraceLines := t.unattributedTraceLines + 1 }

/-- The counters after a snapshot of no core was closed. -/
def countDropped (t : Tally) : Tally :=
  { t with
    closedSnapshots := t.closedSnapshots + 1
    droppedSnapshots := t.droppedSnapshots + 1 }

/-- The counters after a snapshot of a core was closed, with this many new and changed
registers. -/
def countBlock (t : Tally) (core new changed : Nat) : Tally :=
  { t with closedSnapshots := t.closedSnapshots + 1 }.modifyCore core fun c =>
    { c with
      snapshots := c.snapshots + 1
      newRegisters := c.newRegisters + new
      changedRegisters := c.changedRegisters + changed }

/-! ## The counters of trace lines -/

/-- A trace line is counted once, and in the row of its core or among those of no core. -/
theorem countTrace_eq (t : Tally) (core? : Option Nat) :
    t.countTrace core? =
      { t with
        traceLines := t.traceLines + 1
        unattributedTraceLines := t.unattributedTraceLines + if core? = none then 1 else 0
        cores := core?.elim t.cores fun core =>
          t.cores.modify core fun c => { c with traceLines := c.traceLines + 1 } } := by
  cases core? <;> rfl

@[simp] theorem registerLines_countTrace (t : Tally) (core? : Option Nat) :
    (t.countTrace core?).registerLines = t.registerLines := by cases core? <;> rfl

/-! ## The counters of snapshots -/

@[simp] theorem closedSnapshots_countTrace (t : Tally) (core? : Option Nat) :
    (t.countTrace core?).closedSnapshots = t.closedSnapshots := by cases core? <;> rfl

@[simp] theorem droppedSnapshots_countTrace (t : Tally) (core? : Option Nat) :
    (t.countTrace core?).droppedSnapshots = t.droppedSnapshots := by cases core? <;> rfl

@[simp] theorem closedSnapshots_countDropped (t : Tally) :
    t.countDropped.closedSnapshots = t.closedSnapshots + 1 := rfl

@[simp] theorem droppedSnapshots_countDropped (t : Tally) :
    t.countDropped.droppedSnapshots = t.droppedSnapshots + 1 := rfl

@[simp] theorem closedSnapshots_countBlock (t : Tally) (core new changed : Nat) :
    (t.countBlock core new changed).closedSnapshots = t.closedSnapshots + 1 := rfl

@[simp] theorem droppedSnapshots_countBlock (t : Tally) (core new changed : Nat) :
    (t.countBlock core new changed).droppedSnapshots = t.droppedSnapshots := rfl

end Tally

end HartTimeline
