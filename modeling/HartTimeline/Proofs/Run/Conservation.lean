import HartTimeline.Proofs.Run.Rejection
import Mathlib.Algebra.GroupWithZero.Nat

/-!
# Conservation of lines and snapshots

Every line that is fed to a run is counted by its kind unless it was rejected for itself, and every
snapshot that is closed is counted for its core or dropped. This holds in every state that lines can
lead to, also if the run goes on after rejected lines, which some counters show and others do not.

Main statements: `Conserved.step`, one line keeps the laws, and `lines_conserved`, they hold after
any lines.
-/

namespace HartTimeline

/-! ## Sums over the rows of the cores -/

/-- A change in the row of one core changes the sum over all rows by as much. -/
theorem sum_map_modify {α : Type} {rows : List α} {core : Nat} (count : α → Nat)
    (change : α → α) (amount : Nat) (hcore : core < rows.length)
    (hchange : ∀ row, count (change row) = count row + amount) :
    ((rows.modify core change).map count).sum = (rows.map count).sum + amount := by
  induction rows generalizing core with
  | nil => exact absurd hcore (Nat.not_lt_zero core)
  | cons row rows ih =>
    cases core with
    | zero =>
      rw [List.modify_zero_cons, List.map_cons, List.map_cons, List.sum_cons, List.sum_cons,
        hchange]
      omega
    | succ core =>
      have hrest := ih (Nat.lt_of_succ_lt_succ hcore)
      rw [List.modify_succ_cons, List.map_cons, List.map_cons, List.sum_cons, List.sum_cons,
        hrest]
      omega

namespace Tally

/-- What is counted in all is what is counted in the rows of the cores and for no core. -/
structure Balanced (t : Tally) : Prop where
  traces : t.traceLines = t.unattributedTraceLines + (t.cores.map CoreTally.traceLines).sum
  snapshots : t.closedSnapshots = t.droppedSnapshots + (t.cores.map CoreTally.snapshots).sum

@[simp] theorem length_cores_countTrace (t : Tally) (core? : Option Nat) :
    (t.countTrace core?).cores.length = t.cores.length := by
  cases core? with
  | none => rfl
  | some core => exact List.length_modify _ _ _

namespace Balanced

variable {t : Tally}

theorem initial (cores : Nat) : Balanced (Tally.initial cores) where
  traces := by simp [Tally.initial, Function.comp_def]
  snapshots := by simp [Tally.initial, Function.comp_def]

/-- A trace line is counted in all, and in the row of its core or among those of no core. -/
theorem countTrace (h : Balanced t) {core? : Option Nat}
    (hcore : ∀ core ∈ core?, core < t.cores.length) : Balanced (t.countTrace core?) := by
  have htraces := h.traces
  cases core? with
  | none =>
    refine ⟨?_, h.snapshots⟩
    show t.traceLines + 1 = t.unattributedTraceLines + 1 + (t.cores.map CoreTally.traceLines).sum
    omega
  | some core =>
    have htracked : core < t.cores.length := hcore core rfl
    constructor
    · show t.traceLines + 1 =
        t.unattributedTraceLines + ((t.cores.modify core _).map CoreTally.traceLines).sum
      rw [sum_map_modify CoreTally.traceLines _ 1 htracked]
      · omega
      · intro row
        rfl
    · show t.closedSnapshots =
        t.droppedSnapshots + ((t.cores.modify core _).map CoreTally.snapshots).sum
      rw [sum_map_modify CoreTally.snapshots _ 0 htracked]
      · exact h.snapshots
      · intro row
        rfl

/-- A dropped snapshot is counted in all and among those of no core. -/
theorem countDropped (h : Balanced t) : Balanced t.countDropped := by
  have hsnapshots := h.snapshots
  refine ⟨h.traces, ?_⟩
  show t.closedSnapshots + 1 = t.droppedSnapshots + 1 + (t.cores.map CoreTally.snapshots).sum
  omega

/-- A block is counted in all and in the row of its core. -/
theorem countBlock (h : Balanced t) {core : Nat} (hcore : core < t.cores.length)
    (new changed : Nat) : Balanced (t.countBlock core new changed) := by
  have hsnapshots := h.snapshots
  constructor
  · show t.traceLines =
      t.unattributedTraceLines + ((t.cores.modify core _).map CoreTally.traceLines).sum
    rw [sum_map_modify CoreTally.traceLines _ 0 hcore]
    · exact h.traces
    · intro row
      rfl
  · show t.closedSnapshots + 1 =
      t.droppedSnapshots + ((t.cores.modify core _).map CoreTally.snapshots).sum
    rw [sum_map_modify CoreTally.snapshots _ 1 hcore]
    · omega
    · intro row
      rfl

end Balanced

end Tally

namespace Run

/-! ## The rejected lines -/

/-- The lines that a run rejects among those that it is fed, with their faults. -/
def rejections (r : Run) (lines : List (Text × Nat)) : List (Text × LogFault) :=
  (lines.zip (r.outcomes lines)).filterMap fun fed => fed.2.fault?.map (Prod.mk fed.1.1)

@[simp] theorem length_outcomes (r : Run) (lines : List (Text × Nat)) :
    (r.outcomes lines).length = lines.length := by
  induction lines generalizing r with
  | nil => rfl
  | cons line lines ih => rw [outcomes, List.length_cons, List.length_cons, ih]

/-- One more line is rejected or not. -/
theorem rejections_concat (r : Run) (lines : List (Text × Nat)) (line : Text × Nat) :
    r.rejections (lines ++ [line]) =
      r.rejections lines ++
        (((r.after lines).step line.2 line.1).2.fault?.map (Prod.mk line.1)).toList := by
  rw [rejections, outcomes_append, List.zip_append (r.length_outcomes lines).symm,
    List.filterMap_append]
  rfl

end Run

/-! ## The laws -/

/-- The laws that hold of the counters of a run once it has been fed so many lines, of which it has
rejected some. A line is rejected for itself or for the snapshot that it closes, and no snapshot is
closed by the first register line. -/
structure Conserved (r : Run) (fed : Nat) (rejected : List (Text × LogFault)) : Prop where
  rows : r.tally.cores.length = r.cores
  balanced : r.tally.Balanced
  fed : r.tally.lines = fed
  kinds : r.tally.lines = r.tally.traceLines + r.tally.registerLines + r.tally.blankLines +
    rejected.countP fun x => x.2.ofLine x.1
  opened : r.assembly.snapshot.contains counterRegister = true → 0 < r.tally.registerLines
  closings : r.tally.closedSnapshots + (rejected.countP fun x => x.2.ofSnapshot x.1) ≤
    r.tally.registerLines - 1

namespace Conserved

variable {r : Run} {fed : Nat} {rejected : List (Text × LogFault)} {text : Text} {fault : LogFault}

theorem start (cores : Nat) (skipBlank : Bool) : Conserved (Run.start cores skipBlank) 0 [] where
  rows := by
    rw [Run.cores_start]
    simp [Run.start, Tally.initial]
  balanced := .initial cores
  fed := rfl
  kinds := rfl
  opened := fun hcontains => by cases hcontains
  closings := Nat.le_refl 0

/-- A register line is counted as one. -/
theorem kinds_registerLine (h : Conserved r fed rejected) :
    r.tally.lines + 1 = r.tally.traceLines + (r.tally.registerLines + 1) + r.tally.blankLines +
      rejected.countP fun x => x.2.ofLine x.1 := by
  have hkinds := h.kinds
  omega

/-- There is a register line to spare for a snapshot that is closed. -/
theorem closings_of_closedBy (h : Conserved r fed rejected) (hclosed : r.closedBy text = true) :
    r.tally.closedSnapshots + (rejected.countP fun x => x.2.ofSnapshot x.1) + 1 ≤
      r.tally.registerLines := by
  have hopened := h.opened (Run.closedBy_eq_true_iff.1 hclosed).2
  have hclosings := h.closings
  omega

/-- A line that is rejected for itself is counted among all lines alone. -/
theorem rejectLine (h : Conserved r fed rejected) (hline : fault.ofLine text = true)
    (hsnapshot : fault.ofSnapshot text = false) :
    Conserved r.countLine (fed + 1) (rejected ++ [(text, fault)]) := by
  refine ⟨h.rows, ⟨h.balanced.traces, h.balanced.snapshots⟩, congrArg (· + 1) h.fed, ?_, h.opened,
    ?_⟩
  · have hkinds := h.kinds
    rw [List.countP_append, List.countP_singleton, if_pos hline]
    show r.tally.lines + 1 =
      r.tally.traceLines + r.tally.registerLines + r.tally.blankLines + _
    omega
  · rw [List.countP_append, List.countP_singleton, if_neg (Bool.eq_false_iff.1 hsnapshot)]
    exact h.closings

/-- A line that is rejected for the snapshot that it closes is still counted as a register line. -/
theorem rejectSnapshot (h : Conserved r fed rejected) (hclosed : r.closedBy text = true)
    (hline : fault.ofLine text = false) (hsnapshot : fault.ofSnapshot text = true) :
    Conserved (r.reopen text) (fed + 1) (rejected ++ [(text, fault)]) := by
  refine ⟨h.rows, ⟨h.balanced.traces, h.balanced.snapshots⟩, congrArg (· + 1) h.fed, ?_,
    fun _ => Nat.succ_pos _, ?_⟩
  · rw [List.countP_append, List.countP_singleton, if_neg (Bool.eq_false_iff.1 hline)]
    exact h.kinds_registerLine
  · rw [List.countP_append, List.countP_singleton, if_pos hsnapshot]
    exact h.closings_of_closedBy hclosed

/-- A trace line is copied for a tracked core or for none, so that a row is there to count it. -/
theorem copied (h : Conserved r fed rejected) (text : Text) {core? : Option Nat}
    (hcore : ∀ core ∈ core?, core < r.cores) :
    Conserved { r with
      timeline := r.timeline.push (.trace text core?)
      tally := r.tally.countLine.countTrace core? } (fed + 1) rejected := by
  have hrows : (r.tally.countLine.countTrace core?).cores.length = r.cores :=
    (Tally.length_cores_countTrace _ core?).trans h.rows
  have hbalanced : (r.tally.countLine.countTrace core?).Balanced := by
    apply Tally.Balanced.countTrace (t := r.tally.countLine)
    · exact ⟨h.balanced.traces, h.balanced.snapshots⟩
    · intro core hnamed
      exact lt_of_lt_of_eq (hcore core hnamed) h.rows.symm
  have hkinds := h.kinds
  rw [Tally.countTrace_eq] at *
  refine ⟨hrows, hbalanced, congrArg (· + 1) h.fed, ?_, h.opened, h.closings⟩
  show r.tally.lines + 1 =
    r.tally.traceLines + 1 + r.tally.registerLines + r.tally.blankLines + _
  omega

theorem blank (h : Conserved r fed rejected) :
    Conserved { r with tally := r.tally.countLine.countBlank } (fed + 1) rejected := by
  refine ⟨h.rows, ⟨h.balanced.traces, h.balanced.snapshots⟩, congrArg (· + 1) h.fed, ?_, h.opened,
    h.closings⟩
  have hkinds := h.kinds
  show r.tally.lines + 1 =
    r.tally.traceLines + r.tally.registerLines + (r.tally.blankLines + 1) + _
  omega

/-- The first register line closes nothing, and any later one leaves more to spare. -/
theorem gathered (h : Conserved r fed rejected) (text : Text) :
    Conserved (r.gather text) (fed + 1) rejected := by
  refine ⟨h.rows, ⟨h.balanced.traces, h.balanced.snapshots⟩, congrArg (· + 1) h.fed,
    h.kinds_registerLine, fun _ => Nat.succ_pos _, ?_⟩
  have hclosings := h.closings
  show r.tally.closedSnapshots + _ ≤ r.tally.registerLines + 1 - 1
  omega

theorem dropped (h : Conserved r fed rejected) (hclosed : r.closedBy text = true) :
    Conserved { r.reopen text with tally := (r.reopen text).tally.countDropped } (fed + 1)
      rejected := by
  refine ⟨h.rows, ?_, congrArg (· + 1) h.fed, h.kinds_registerLine, fun _ => Nat.succ_pos _, ?_⟩
  · apply Tally.Balanced.countDropped (t := (r.reopen text).tally)
    exact ⟨h.balanced.traces, h.balanced.snapshots⟩
  · have hclosings := h.closings_of_closedBy hclosed
    show r.tally.closedSnapshots + 1 + _ ≤ r.tally.registerLines + 1 - 1
    omega

theorem rendered (h : Conserved r fed rejected) (hclosed : r.closedBy text = true) {core : Nat}
    (hcore : core < r.cores) (s : Snapshot) (block : Block) :
    Conserved { r.reopen text with
      baselines := r.baselines.set core s
      timeline := r.timeline.push (.block block)
      tally := (r.reopen text).tally.countBlock core block.newCount block.changedCount } (fed + 1)
      rejected := by
  refine ⟨?_, ?_, congrArg (· + 1) h.fed, h.kinds_registerLine, fun _ => Nat.succ_pos _, ?_⟩
  · show (r.tally.cores.modify core _).length = (r.baselines.set core s).cores
    rw [List.length_modify, Baselines.cores_set]
    exact h.rows
  · apply Tally.Balanced.countBlock (t := (r.reopen text).tally)
    · exact ⟨h.balanced.traces, h.balanced.snapshots⟩
    · exact lt_of_lt_of_eq hcore h.rows.symm
  · have hclosings := h.closings_of_closedBy hclosed
    show r.tally.closedSnapshots + 1 + _ ≤ r.tally.registerLines + 1 - 1
    omega

/-- One line keeps the laws. -/
theorem step (h : Conserved r fed rejected) (index : Nat) (text : Text) :
    Conserved (r.step index text).1 (fed + 1)
      (rejected ++ ((r.step index text).2.fault?.map (Prod.mk text)).toList) := by
  have hspec := r.step_spec index text
  rcases hout : r.step index text with ⟨r', outcome⟩
  rw [hout] at hspec
  -- what a line adds to the rejected ones is told by its outcome alone
  cases outcome with
  | rejected fault =>
    rcases Run.step_rejected hout with ⟨rfl, hline, hsnapshot⟩ | ⟨rfl, hclosed, hline, hsnapshot⟩
    · exact h.rejectLine hline hsnapshot
    · exact h.rejectSnapshot hclosed hline hsnapshot
  | taken =>
    show Conserved r' (fed + 1) (rejected ++ [])
    rw [List.append_nil]
    cases hspec with
    | @copied core trace token range =>
      apply h.copied text
      intro named hnamed
      obtain rfl : core = named := Int.mem_toNat?.1 hnamed
      exact Int.ofNat_lt.1 range
    | blank plain words skip => exact h.blank
    | gathered some open_ => exact h.gathered text
  | dropped core =>
    show Conserved r' (fed + 1) (rejected ++ [])
    rw [List.append_nil]
    cases hspec with
    | dropped closed hart range => exact h.dropped closed
  | rendered block =>
    show Conserved r' (fed + 1) (rejected ++ [])
    rw [List.append_nil]
    cases hspec with
    | rendered closed hart range diff => exact h.rendered closed range _ block

/-- After any lines, rejected ones among them, the laws hold. -/
theorem after (cores : Nat) (skipBlank : Bool) (lines : List (Text × Nat)) :
    Conserved ((Run.start cores skipBlank).after lines) lines.length
      ((Run.start cores skipBlank).rejections lines) := by
  induction lines using List.reverseRecOn with
  | nil => exact .start cores skipBlank
  | append_singleton lines line ih =>
    rw [Run.after_concat, Run.rejections_concat, List.length_append]
    exact ih.step line.2 line.1

end Conserved

/-- Lines and snapshots are conserved, whatever lines a run is fed and whichever of them it rejects.
Every line is counted once among all lines, and as a trace line, a register line or a blank one
unless it was rejected for itself. Every trace line is counted in the row of one core or among those
of no core, and every closed snapshot in the row of one core or among the dropped ones. The closed
snapshots, and with them those that lines were rejected for, are fewer than the register lines;
before the first register line there is none of either. -/
theorem Run.lines_conserved (cores : Nat) (skipBlank : Bool) (lines : List (Text × Nat)) :
    let tally := ((start cores skipBlank).after lines).tally
    let rejected := (start cores skipBlank).rejections lines
    tally.lines = lines.length ∧
    tally.lines = tally.traceLines + tally.registerLines + tally.blankLines +
      (rejected.countP fun x => x.2.ofLine x.1) ∧
    tally.traceLines = tally.unattributedTraceLines + (tally.cores.map CoreTally.traceLines).sum ∧
    tally.closedSnapshots =
      tally.droppedSnapshots + (tally.cores.map CoreTally.snapshots).sum ∧
    tally.closedSnapshots + (rejected.countP fun x => x.2.ofSnapshot x.1) ≤
      tally.registerLines - 1 := by
  intro tally rejected
  have h := Conserved.after cores skipBlank lines
  exact ⟨h.fed, h.kinds, h.balanced.traces, h.balanced.snapshots, h.closings⟩

end HartTimeline
