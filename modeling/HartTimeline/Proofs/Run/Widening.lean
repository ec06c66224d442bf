import HartTimeline.Proofs.Recording.Extraction
import HartTimeline.Proofs.Run.Audit

/-!
# Tracking more cores

A run that tracks more cores has a stream, a baseline and a row of counters more for each of them.
As long as no line belongs to one of the new cores, these stay empty and all else is the same; the
first line that does is rejected by the narrow run, and there the two part.

Main statements: `Step.widen`, what a line does it also does among more cores, and
`ofLog_of_more_cores`, one log read with fewer and with more cores.
-/

namespace HartTimeline

/-- A change at an index of the first list leaves a second one behind it alone. -/
theorem modify_append_left {α : Type} {l : List α} {i : Nat} (hi : i < l.length) (l' : List α)
    (change : α → α) : (l ++ l').modify i change = l.modify i change ++ l' := by
  induction l generalizing i with
  | nil => exact absurd hi (Nat.not_lt_zero i)
  | cons a l ih =>
    cases i with
    | zero => rfl
    | succ i =>
      rw [List.cons_append, List.modify_succ_cons, List.modify_succ_cons,
        ih (Nat.lt_of_succ_lt_succ hi), List.cons_append]

/-! ## What a run holds for more cores -/

/-- The baselines of so many cores more, none of which has had a snapshot. -/
def Baselines.widen (b : Baselines) (more : Nat) : Baselines :=
  ⟨b.latest ++ List.replicate more none⟩

/-- The counters with so many rows more, all of them at zero. -/
def Tally.widen (t : Tally) (more : Nat) : Tally :=
  { t with
    cores := t.cores ++ (List.range' t.cores.length more).map fun core => { core } }

/-- The run with so many cores more, to which nothing has belonged so far. -/
def Run.widen (r : Run) (more : Nat) : Run :=
  { r with
    baselines := r.baselines.widen more
    timeline := { r.timeline with cores := r.timeline.cores + more }
    tally := r.tally.widen more }

namespace Baselines

variable {b : Baselines} {core : Nat}

@[simp] theorem cores_widen (b : Baselines) (more : Nat) :
    (b.widen more).cores = b.cores + more := by
  simp [cores, widen]

theorem get?_widen (h : core < b.cores) (more : Nat) :
    (b.widen more).get? core = b.get? core := by
  unfold get? widen
  rw [List.getElem?_append_left h]

theorem set_widen (h : core < b.cores) (more : Nat) (s : Snapshot) :
    (b.widen more).set core s = (b.set core s).widen more := by
  unfold set widen
  rw [List.set_append_left core (some s) h]

end Baselines

namespace Tally

variable {t : Tally}

theorem countTrace_widen {core? : Option Nat} (h : ∀ core ∈ core?, core < t.cores.length)
    (more : Nat) : (t.widen more).countTrace core? = (t.countTrace core?).widen more := by
  cases core? with
  | none => rfl
  | some core =>
    simp only [countTrace, modifyCore, widen, List.length_modify]
    rw [modify_append_left (h core rfl)]

theorem countBlock_widen {core : Nat} (h : core < t.cores.length) (more new changed : Nat) :
    (t.widen more).countBlock core new changed = (t.countBlock core new changed).widen more := by
  simp only [countBlock, modifyCore, widen, List.length_modify]
  rw [modify_append_left h]

end Tally

namespace Run

variable {r : Run} {index : Nat} {text : Text} {more : Nat}

theorem widen_start (n more : Nat) (skipBlank : Bool) :
    (start n skipBlank).widen more = start (n + more) skipBlank := by
  simp [start, widen, Baselines.widen, Baselines.initial, Timeline.empty, Tally.widen,
    Tally.initial, List.replicate_append_replicate, List.range_add, List.range'_eq_map_range]

@[simp] theorem cores_widen (r : Run) (more : Nat) : (r.widen more).cores = r.cores + more :=
  Baselines.cores_widen _ _

/-! ## One line among more cores -/

/-- What a line does, it also does among more cores, unless its core was not tracked. -/
theorem Step.widen {out : Run × Outcome} (h : Step r index text out)
    (hrows : r.tally.cores.length = r.cores)
    (hrange : ∀ line core cores, out.2.fault? ≠ some (.coreOutOfRange line core cores))
    (more : Nat) : Step (r.widen more) index text (out.1.widen more, out.2) := by
  have hcores := cores_widen r more
  cases h with
  | badToken trace token => exact .badToken trace token
  | traceOutOfRange => exact absurd rfl (hrange _ _ _)
  | @copied core trace token range =>
    have hrow : ∀ n ∈ core.toNat?, n < r.tally.countLine.cores.length := by
      intro n hn
      obtain rfl : core = n := Int.mem_toNat?.1 hn
      exact lt_of_lt_of_eq (Int.ofNat_lt.1 range) hrows.symm
    have htally : (r.widen more).tally.countLine.countTrace core.toNat? =
        (r.tally.countLine.countTrace core.toNat?).widen more := Tally.countTrace_widen hrow more
    have hcopied : Step (r.widen more) index text _ := .copied trace token (by omega)
    rw [htally] at hcopied
    exact hcopied
  | malformed plain words => exact .malformed plain words
  | blank plain words skip => exact .blank plain words skip
  | gathered some open_ => exact .gathered some open_
  | unattributed closed hart => exact .unattributed closed hart
  | snapshotOutOfRange => exact absurd rfl (hrange _ _ _)
  | dropped closed hart range => exact .dropped closed hart range
  | @rendered core block closed hart range diff =>
    have hrow : core < (r.reopen text).tally.cores.length := lt_of_lt_of_eq range hrows.symm
    have htally : ((r.widen more).reopen text).tally.countBlock core block.newCount
        block.changedCount =
          ((r.reopen text).tally.countBlock core block.newCount block.changedCount).widen more :=
      Tally.countBlock_widen hrow more _ _
    have hset : (r.widen more).baselines.set core (r.widen more).assembly.snapshot =
        (r.baselines.set core r.assembly.snapshot).widen more := Baselines.set_widen range more _
    have hdiff : block = Block.between core ((r.widen more).baselines.get? core)
        (r.widen more).assembly.snapshot :=
      diff.trans (congrArg (Block.between core · _) (Baselines.get?_widen range more).symm)
    have hrendered : Step (r.widen more) index text _ := .rendered closed hart (by omega) hdiff
    rw [htally, hset] at hrendered
    exact hrendered

theorem step_widen (h : Audited r)
    (hrange : ∀ line core cores,
      (r.step index text).2.fault? ≠ some (.coreOutOfRange line core cores)) (more : Nat) :
    (r.widen more).step index text = ((r.step index text).1.widen more, (r.step index text).2) :=
  step_eq_of_spec ((r.step_spec index text).widen h.length_rows hrange more)

/-- A line whose core is not tracked is rejected for it only as long as the core is not among the
new ones. -/
theorem fault?_widen_of_range {line cores : Nat} {core : Int}
    (h : (r.step index text).2.fault? = some (.coreOutOfRange line core cores)) (more : Nat) :
    ((r.widen more).step index text).2.fault? =
      if (r.widen more).cores ≤ core then some (.coreOutOfRange line core (r.widen more).cores)
      else none := by
  have hspec := r.step_spec index text
  generalize r.step index text = out at hspec h
  cases hspec with
  | traceOutOfRange trace token range =>
    cases h
    rw [fault?_of_isTrace trace, token]
  | snapshotOutOfRange closed hart range =>
    cases h
    have hart' : (r.widen more).assembly.snapshot.core = .ok core := hart
    have hclosed : (r.widen more).closedBy text = true := closed
    rw [fault?_of_closedBy hclosed, hart']
  | badToken | malformed | unattributed | copied | blank | gathered | dropped | rendered => cases h

/-! ## Many lines among more cores -/

/-- Lines that are accepted are accepted among more cores and do the same there. -/
theorem after_widen {lines : List (Text × Nat)} (h : Audited r) (haccepts : r.Accepts lines)
    (more : Nat) :
    (r.widen more).Accepts lines ∧ (r.widen more).after lines = (r.after lines).widen more := by
  induction lines generalizing r with
  | nil => exact ⟨accepts_nil _, rfl⟩
  | cons line lines ih =>
    rw [accepts_cons] at haccepts ⊢
    have hstep : (r.widen more).step line.2 line.1 = _ :=
      step_widen h (by simp [haccepts.1]) more
    rw [after, after, hstep]
    exact ⟨⟨haccepts.1, (ih (h.step _ _) haccepts.2).1⟩, (ih (h.step _ _) haccepts.2).2⟩

/-! ## A log among more cores -/

theorem coreStream?_widen {core : Nat} (hcore : core < r.timeline.cores + more) :
    (r.widen more).report.timeline.coreStream? core = some (r.timeline.coreStream core) :=
  if_pos hcore

/-- Nothing stands in the stream of a core that is not tracked. -/
theorem coreStream_eq_nil {core n : Nat} (hcore : n ≤ core)
    (hrouted : ∀ e ∈ r.timeline.entries.toList, e.IsRouted n) :
    r.timeline.coreStream core = [] := by
  have hnone : (r.timeline.entries.toList.filter fun e => e.core? = some core) = [] := by
    rw [List.filter_eq_nil_iff]
    intro e he hself
    have hlt := (hrouted e he).lt (of_decide_eq_true hself)
    omega
  rw [Timeline.coreStream, hnone]
  rfl

/-- The streams and the rows of counters among more cores. -/
theorem report_widen {n : Nat} (hcores : r.timeline.cores = n) (hrows : r.tally.cores.length = n)
    (hrouted : ∀ e ∈ r.timeline.entries.toList, e.IsRouted n) (more : Nat) :
    (∀ core < n, ∃ stream row,
      r.report.timeline.coreStream? core = some stream ∧
      (r.widen more).report.timeline.coreStream? core = some stream ∧
      r.report.tally.cores[core]? = some row ∧
      (r.widen more).report.tally.cores[core]? = some row) ∧
    ∀ core, n ≤ core → core < n + more →
      (r.widen more).report.timeline.coreStream? core = some [] ∧
      (r.widen more).report.tally.cores[core]? = some { core } := by
  have htally : (r.widen more).report.tally.cores =
      r.tally.cores ++ (List.range' n more).map fun core => ({ core } : CoreTally) := by
    rw [← hrows]
    rfl
  refine ⟨fun core hcore => ?_, fun core hnew hcore => ?_⟩
  · have hrow : r.tally.cores[core]? = some r.tally.cores[core] :=
      List.getElem?_eq_getElem (by omega)
    refine ⟨_, _, if_pos (by rw [← hcores] at hcore; exact hcore), coreStream?_widen (by omega),
      hrow, ?_⟩
    rw [htally, List.getElem?_append_left (by omega), hrow]
  · rw [coreStream?_widen (by omega), coreStream_eq_nil hnew hrouted, htally,
      List.getElem?_append_right (by omega), List.getElem?_map,
      List.getElem?_range' (by omega), hrows]
    refine ⟨rfl, ?_⟩
    show some ({ core := n + 1 * (core - n) } : CoreTally) = some { core }
    rw [Nat.one_mul, Nat.add_sub_cancel' hnew]

variable {n : Nat} {skipBlank : Bool} {log : Text} {fault : LogFault}

/-- Up to the line for which it is refused, a log is read among more cores as well. -/
theorem exists_fault_widen (h : Report.ofLog n skipBlank log = .error fault) (more : Nat) :
    ∃ read text rest r, Text.lines log = read ++ text :: rest ∧
      (start (n + more) skipBlank).Accepts read.zipIdx ∧
      (start (n + more) skipBlank).after read.zipIdx = widen r more ∧
      Audited r ∧ r.cores = n ∧ (r.step (0 + read.length) text).2.fault? = some fault := by
  obtain ⟨read, text, rest, hsplit, haccepts, hfault⟩ :=
    steps_eq_error_iff.1 (ofLog_eq_error_iff.1 h)
  have haudited := Audited.start n skipBlank
  obtain ⟨haccepts', hafter⟩ := after_widen haudited haccepts more
  rw [widen_start] at haccepts' hafter
  exact ⟨read, text, rest, _, hsplit, haccepts', hafter, haudited.after _,
    (cores_after_start n skipBlank _).1, hfault⟩

/-- Tracking more cores changes nothing of what is tracked. A log that is read to its end among some
cores is so among more, with the same stream of all entries and the same counters; a core that was
tracked has the stream and the counters that it had, and a new one has an empty stream and counters
at zero. A log that is refused is refused for the same fault, unless the fault is that a core is not
tracked. In that case it is refused for the same core on the same line if this core is not among the
new ones either; and otherwise the line is accepted, with all before it, and the log can only be
refused for a later one. -/
theorem ofLog_of_more_cores (n m : Nat) (hle : n ≤ m) (skipBlank : Bool) (log : Text) :
    (∀ report, Report.ofLog n skipBlank log = .ok report →
      ∃ report', Report.ofLog m skipBlank log = .ok report' ∧
        report'.timeline.globalStream = report.timeline.globalStream ∧
        (∀ core < n, ∃ stream row,
          report.timeline.coreStream? core = some stream ∧
          report'.timeline.coreStream? core = some stream ∧
          report.tally.cores[core]? = some row ∧ report'.tally.cores[core]? = some row) ∧
        (∀ core, n ≤ core → core < m →
          report'.timeline.coreStream? core = some [] ∧
          report'.tally.cores[core]? = some { core }) ∧
        { report'.tally with cores := report.tally.cores } = report.tally) ∧
    (∀ fault, Report.ofLog n skipBlank log = .error fault →
      (∀ line core cores, fault ≠ .coreOutOfRange line core cores) →
      Report.ofLog m skipBlank log = .error fault) ∧
    ∀ line core cores, Report.ofLog n skipBlank log = .error (.coreOutOfRange line core cores) →
      (m ≤ core → Report.ofLog m skipBlank log = .error (.coreOutOfRange line core m)) ∧
      (core < m → line ≤ (Text.lines log).length ∧
        (start m skipBlank).Accepts ((Text.lines log).take line).zipIdx ∧
        ∀ fault, Report.ofLog m skipBlank log = .error fault → line < fault.line) := by
  obtain ⟨more, rfl⟩ := Nat.exists_eq_add_of_le hle
  refine ⟨fun report h => ?_, fun fault h hrange => ?_, fun line core cores h => ?_⟩
  · have hrouted := fun e he => (Recording.isReadable_and_isRouted_of_ofLog h e he).2
    obtain ⟨haccepts, rfl⟩ := ofLog_eq_ok_iff.1 h
    have haudited := Audited.start n skipBlank
    obtain ⟨haccepts', hafter⟩ := after_widen haudited haccepts more
    rw [widen_start] at haccepts' hafter
    have hrows := (haudited.after (Text.lines log).zipIdx).length_rows
    rw [(cores_after_start n skipBlank _).1] at hrows
    obtain ⟨hold, hnew⟩ :=
      report_widen (cores_after_start n skipBlank _).2 hrows hrouted more
    exact ⟨_, ofLog_eq_ok_iff.2 ⟨haccepts', congrArg report hafter⟩, rfl, hold, hnew, rfl⟩
  · obtain ⟨read, text, rest, r, hsplit, haccepts, hafter, haudited, -, hfault⟩ :=
      exists_fault_widen h more
    refine ofLog_eq_error_iff.2 (steps_eq_error_iff.2 ⟨read, text, rest, hsplit, haccepts, ?_⟩)
    rw [hafter, step_widen haudited]
    · exact hfault
    · intro line core cores hout
      exact hrange line core cores (Option.some.inj (hfault.symm.trans hout))
  · obtain ⟨read, text, rest, r, hsplit, haccepts, hafter, -, hcores, hfault⟩ :=
      exists_fault_widen h more
    have hwide := fault?_widen_of_range hfault more
    rw [cores_widen, hcores, ← hafter] at hwide
    refine ⟨fun hout => ?_, fun hin => ?_⟩
    · rw [if_pos hout] at hwide
      exact ofLog_eq_error_iff.2
        (steps_eq_error_iff.2 ⟨read, text, rest, hsplit, haccepts, hwide⟩)
    · -- the line is accepted, so that nothing up to it can be at fault
      rw [if_neg (by omega)] at hwide
      have hline : line = 0 + read.length + 1 := line_of_fault? hfault
      have htake : (Text.lines log).take line = read ++ [text] := by
        rw [hsplit, hline, Nat.zero_add, List.take_length_add_append]
        rfl
      have hlength : line ≤ (Text.lines log).length := by
        rw [hsplit, List.length_append, List.length_cons]
        omega
      have haccepted : (start (n + more) skipBlank).Accepts
          ((Text.lines log).take line).zipIdx := by
        rw [htake, List.zipIdx_append]
        exact accepts_concat.2 ⟨haccepts, hwide⟩
      exact ⟨hlength, haccepted, fun fault => lt_line_of_ofLog hlength haccepted⟩

/-- A log with a snapshot of the first core and a trace line of the third. -/
def thirdCore : Text :=
  Text.of "mhartid 1\npc 10\nriscv: hart:3, nop\npc 14\n"

/-- Two cores are not enough for it. Three are, and the fourth one stays without an entry. -/
theorem ofLog_of_thirdCore :
    Report.ofLog 2 false thirdCore = .error (.coreOutOfRange 3 2 2) ∧
      (start 3 false).Accepts ((Text.lines thirdCore).take 3).zipIdx ∧
      ∃ report, Report.ofLog 4 false thirdCore = .ok report ∧
        report.timeline.globalStream =
          Text.of "riscv: hart:3, nop\n\nCore 0:\nmhartid = 1\npc = 10\n\n" ∧
        report.timeline.coreStream? 3 = some [] ∧
        report.tally.cores[3]? = some ⟨3, 0, 0, 0, 0⟩ := by
  have hrefused : Report.ofLog 2 false thirdCore = .error (.coreOutOfRange 3 2 2) := by
    decide +kernel
  have hglobal : (Report.ofLog 3 false thirdCore).toOption.map
      (fun report => report.timeline.globalStream) = some (Text.of
        "riscv: hart:3, nop\n\nCore 0:\nmhartid = 1\npc = 10\n\n") := by decide +kernel
  obtain ⟨-, -, hrange⟩ := ofLog_of_more_cores 2 3 (by decide) false thirdCore
  refine ⟨hrefused, ((hrange 3 2 2 hrefused).2 (by decide)).2.1, ?_⟩
  cases h : Report.ofLog 3 false thirdCore with
  | error fault =>
    rw [h] at hglobal
    cases hglobal
  | ok report =>
    obtain ⟨report', h', hsame, -, hnew, -⟩ :=
      (ofLog_of_more_cores 3 4 (by decide) false thirdCore).1 report h
    obtain ⟨hstream, hrow⟩ := hnew 3 (by decide) (by decide)
    rw [h] at hglobal
    exact ⟨report', h', hsame.trans (Option.some.inj hglobal), hstream, hrow⟩

end Run

end HartTimeline
