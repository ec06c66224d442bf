import HartTimeline.Proofs.Run.Rejection
import HartTimeline.Proofs.Text.Paragraphs

/-!
# Trace lines and register lines

A trace line may fall anywhere: inside an open snapshot, or between a snapshot and the line that
closes it. The two kinds of lines share the streams and the rows of the counters, and nothing else.
A run is therefore made up of two, one that is fed its trace lines and one that is fed all others.

Main statements: `Apart.step_trace` and `Apart.step_plain`, a line of either kind moves its own run
alone, `after_spaced`, blank lines are only counted, and `lines_independent`, a whole run taken
apart.
-/

namespace HartTimeline

/-! ## Entries of one kind -/

namespace Timeline

variable {t : Timeline} {keep : Entry → Bool} {e : Entry}

/-- The timeline with some of its entries left out. -/
def only (t : Timeline) (keep : Entry → Bool) : Timeline :=
  { t with entries := t.entries.filter keep }

theorem only_push_of_pos (h : keep e = true) : (t.push e).only keep = (t.only keep).push e := by
  simp [only, push, h]

theorem only_push_of_neg (h : keep e = false) : (t.push e).only keep = t.only keep := by
  simp [only, push, h]

theorem globalStream_only (t : Timeline) (keep : Entry → Bool) :
    (t.only keep).globalStream = render (t.entries.toList.filter keep) := by
  simp [globalStream, only]

theorem coreStream_only (t : Timeline) (keep : Entry → Bool) (core : Nat) :
    (t.only keep).coreStream core =
      render ((t.entries.toList.filter fun e => e.core? = some core).filter keep) := by
  simp [coreStream, only, List.filter_filter, Bool.and_comm]

theorem coreStream?_only {core : Nat} (h : core < t.cores) (keep : Entry → Bool) :
    (t.only keep).coreStream? core =
      some (render ((t.entries.toList.filter fun e => e.core? = some core).filter keep)) := by
  rw [← coreStream_only]
  exact if_pos h

end Timeline

/-! ## Counters of two runs -/

/-- A change in one list shows at the same place of a list made of two. -/
theorem zipWith_modify_left {α β γ : Type} {f : α → β → γ} {change : α → α} {change' : γ → γ}
    (h : ∀ a b, f (change a) b = change' (f a b)) (l : List α) (l' : List β) (i : Nat) :
    List.zipWith f (l.modify i change) l' = (List.zipWith f l l').modify i change' := by
  induction l generalizing l' i with
  | nil => simp
  | cons a l ih =>
    cases l' with
    | nil => simp
    | cons b l' => cases i <;> simp [h, ih]

theorem zipWith_modify_right {α β γ : Type} {f : α → β → γ} {change : β → β} {change' : γ → γ}
    (h : ∀ a b, f a (change b) = change' (f a b)) (l : List α) (l' : List β) (i : Nat) :
    List.zipWith f l (l'.modify i change) = (List.zipWith f l l').modify i change' := by
  rw [List.zipWith_comm, zipWith_modify_left fun b a => h a b, List.zipWith_comm]

/-- The trace lines of one row and the snapshots of another. -/
def CoreTally.merge (traced registered : CoreTally) : CoreTally :=
  { registered with traceLines := traced.traceLines }

/-- The lines of both, the trace lines of one and all else of the other. -/
def Tally.merge (traced registered : Tally) : Tally :=
  { registered with
    lines := traced.lines + registered.lines
    traceLines := traced.traceLines
    unattributedTraceLines := traced.unattributedTraceLines
    cores := List.zipWith CoreTally.merge traced.cores registered.cores }

namespace Tally

variable (t p : Tally)

theorem merge_initial (cores : Nat) : (initial cores).merge (initial cores) = initial cores := by
  simp [initial, merge, CoreTally.merge, List.zipWith_self]

@[simp] theorem merge_countLine_left : t.countLine.merge p = (t.merge p).countLine := by
  unfold merge countLine
  rw [Nat.add_right_comm]

@[simp] theorem merge_countLine_right : t.merge p.countLine = (t.merge p).countLine := rfl

@[simp] theorem merge_countTrace (core? : Option Nat) :
    (t.countTrace core?).merge p = (t.merge p).countTrace core? := by
  cases core? with
  | none => rfl
  | some core =>
    unfold countTrace modifyCore merge
    rw [zipWith_modify_left]
    intro a b
    rfl

@[simp] theorem merge_countBlank : t.merge p.countBlank = (t.merge p).countBlank := rfl

@[simp] theorem merge_countRegisterLine :
    t.merge p.countRegisterLine = (t.merge p).countRegisterLine := rfl

@[simp] theorem merge_countDropped : t.merge p.countDropped = (t.merge p).countDropped := rfl

@[simp] theorem merge_countBlock (core new changed : Nat) :
    t.merge (p.countBlock core new changed) = (t.merge p).countBlock core new changed := by
  unfold countBlock modifyCore merge
  rw [zipWith_modify_right]
  intro a b
  rfl

end Tally

/-! ## A run taken apart -/

namespace Run

/-- A run has written and counted what two runs have between them, of which one has been fed the
trace lines and the other one all else. -/
structure Apart (r traced registered : Run) : Prop where
  cores : traced.cores = r.cores
  traces : traced.timeline = r.timeline.only fun e => !e.isBlock
  skipBlank : registered.skipBlank = r.skipBlank
  assembly : registered.assembly = r.assembly
  baselines : registered.baselines = r.baselines
  blocks : registered.timeline = r.timeline.only Entry.isBlock
  tally : traced.tally.merge registered.tally = r.tally

namespace Apart

variable {r t p : Run} {text : Text}

theorem start (cores : Nat) (skipBlank : Bool) :
    Apart (Run.start cores skipBlank) (Run.start cores skipBlank) (Run.start cores skipBlank) where
  cores := rfl
  traces := rfl
  skipBlank := rfl
  assembly := rfl
  baselines := rfl
  blocks := rfl
  tally := Tally.merge_initial cores

/-- What a trace line does to a run, it does to the run of trace lines. -/
theorem step_trace (h : Apart r t p) (htrace : Line.isTrace text = true) (index : Nat) :
    (t.step index text).2 = (r.step index text).2 ∧
      Apart (r.step index text).1 (t.step index text).1 p := by
  have hline : Apart r.countLine t.countLine p :=
    { h with tally := by simp [countLine, h.tally] }
  cases htoken : traceCore text with
  | error reason =>
    rw [step_eq_of_spec (.badToken htrace htoken), step_eq_of_spec (.badToken htrace htoken)]
    exact ⟨rfl, hline⟩
  | ok core =>
    by_cases hrange : r.cores ≤ core
    · rw [step_eq_of_spec (.traceOutOfRange htrace htoken hrange),
        step_eq_of_spec (.traceOutOfRange htrace htoken (by rwa [h.cores])), h.cores]
      exact ⟨rfl, hline⟩
    · have hcore : core < r.cores := Int.not_le.1 hrange
      rw [step_eq_of_spec (.copied htrace htoken hcore),
        step_eq_of_spec (.copied htrace htoken (by rwa [h.cores]))]
      refine ⟨rfl, { h with traces := ?_, blocks := ?_, tally := ?_ }⟩
      · rw [Timeline.only_push_of_pos rfl, h.traces]
      · rw [Timeline.only_push_of_neg rfl, h.blocks]
      · rw [Tally.merge_countTrace, Tally.merge_countLine_left, h.tally]

/-- What any other line does to a run, it does to the run of the others. -/
theorem exists_plain {out : Run × Outcome} (h : Apart r t p) (hplain : Line.isTrace text = false)
    {index : Nat} (hstep : Step r index text out) :
    ∃ p', Step p index text (p', out.2) ∧ Apart out.1 t p' := by
  -- with the parts that the two runs share identified, a line meets the same guards in both
  obtain ⟨skipBlank, assembly, baselines, timeline, tally⟩ := p
  obtain ⟨hcores, htraces, rfl, rfl, rfl, rfl, htally⟩ := h
  simp only at htally
  cases hstep with
  | badToken trace => rw [hplain] at trace; cases trace
  | traceOutOfRange trace => rw [hplain] at trace; cases trace
  | copied trace => rw [hplain] at trace; cases trace
  | malformed plain words =>
    refine ⟨_, .malformed plain words, hcores, htraces, rfl, rfl, rfl, rfl, ?_⟩
    simp [countLine, htally]
  | blank plain words skip =>
    refine ⟨_, .blank plain words skip, hcores, htraces, rfl, rfl, rfl, rfl, ?_⟩
    simp [htally]
  | gathered some open_ =>
    refine ⟨_, .gathered some open_, hcores, htraces, rfl, rfl, rfl, rfl, ?_⟩
    simp [gather, htally]
  | unattributed closed hart =>
    refine ⟨_, .unattributed closed hart, hcores, htraces, rfl, rfl, rfl, rfl, ?_⟩
    simp [reopen, htally]
  | snapshotOutOfRange closed hart range =>
    refine ⟨_, .snapshotOutOfRange closed hart range, hcores, htraces, rfl, rfl, rfl, rfl, ?_⟩
    simp [reopen, htally]
  | dropped closed hart range =>
    refine ⟨_, .dropped closed hart range, hcores, htraces, rfl, rfl, rfl, rfl, ?_⟩
    simp [reopen, htally]
  | rendered closed hart range diff =>
    refine ⟨_, .rendered closed hart range diff, ?_, ?_, rfl, rfl, rfl, ?_, ?_⟩
    · exact hcores.trans (Baselines.cores_set _ _ _).symm
    · rw [Timeline.only_push_of_neg rfl, htraces]
    · rw [Timeline.only_push_of_pos rfl]
    · simp [reopen, htally]

theorem step_plain (h : Apart r t p) (hplain : Line.isTrace text = false) (index : Nat) :
    (p.step index text).2 = (r.step index text).2 ∧
      Apart (r.step index text).1 t (p.step index text).1 := by
  obtain ⟨p', hstep, hapart⟩ := h.exists_plain hplain (r.step_spec index text)
  rw [step_eq_of_spec hstep]
  exact ⟨rfl, hapart⟩

/-- The lines that are fed to a run decide which of the two is fed each of them. -/
theorem after (h : Apart r t p) (lines : List (Text × Nat)) :
    (r.Accepts lines ↔
      t.Accepts (lines.filter fun line => Line.isTrace line.1) ∧
        p.Accepts (lines.filter fun line => !Line.isTrace line.1)) ∧
    Apart (r.after lines) (t.after (lines.filter fun line => Line.isTrace line.1))
      (p.after (lines.filter fun line => !Line.isTrace line.1)) := by
  induction lines generalizing r t p with
  | nil => exact ⟨by simp, h⟩
  | cons line lines ih =>
    cases hkind : Line.isTrace line.1 with
    | true =>
      obtain ⟨hout, hstep⟩ := h.step_trace hkind line.2
      obtain ⟨haccepts, hafter⟩ := ih hstep
      simp only [List.filter_cons, hkind, Bool.not_true, if_true, Bool.false_eq_true, if_false]
      rw [accepts_cons, accepts_cons, hout, haccepts, and_assoc]
      exact ⟨Iff.rfl, hafter⟩
    | false =>
      obtain ⟨hout, hstep⟩ := h.step_plain hkind line.2
      obtain ⟨haccepts, hafter⟩ := ih hstep
      simp only [List.filter_cons, hkind, Bool.not_false, if_true, Bool.false_eq_true, if_false]
      rw [accepts_cons, accepts_cons, hout, haccepts, and_left_comm]
      exact ⟨Iff.rfl, hafter⟩

/-- The counters at the end are those of the two together. -/
theorem tally_report (h : Apart r t p) :
    t.report.tally.merge p.report.tally = r.report.tally := by
  have hleftover : p.assembly.leftover = r.assembly.leftover := by rw [h.assembly]
  show { t.tally.merge p.tally with discardedRegisters := p.assembly.leftover } =
    { r.tally with discardedRegisters := r.assembly.leftover }
  rw [h.tally, hleftover]

end Apart

/-! ## Blank lines -/

/-- A blank line that is skipped is counted, and nothing else. -/
theorem step_of_blank {r : Run} {text : Text} (hskip : r.skipBlank = true)
    (hblank : text.all Text.isBlank = true) (index : Nat) :
    r.step index text = (r.countMore 1 1, .taken) := by
  rw [List.all_eq_true] at hblank
  have hplain : Line.isTrace text = false := by
    rw [Bool.eq_false_iff]
    intro htrace
    have hletter : 'r' ∈ text := List.mem_of_mem_head? (Line.head?_of_isTrace htrace)
    exact absurd (hblank 'r' hletter) (by decide)
  have hwords : (Text.words text).length = 0 := by rw [Text.words_eq_nil_iff.2 hblank]; rfl
  exact step_eq_of_spec (.blank hplain hwords hskip)

/-- Of blank lines that are skipped nothing remains but that they have been counted. -/
theorem after_spaced {r : Run} (hskip : r.skipBlank = true) (lines : List (Text × Nat)) :
    (r.Accepts lines ↔ r.Accepts (lines.filter fun line => !line.1.all Text.isBlank)) ∧
    r.after lines =
      (r.after (lines.filter fun line => !line.1.all Text.isBlank)).countMore
        (lines.countP fun line => line.1.all Text.isBlank)
        (lines.countP fun line => line.1.all Text.isBlank) := by
  induction lines generalizing r with
  | nil => exact ⟨Iff.rfl, rfl⟩
  | cons line lines ih =>
    obtain ⟨haccepts, hafter⟩ := ih ((step_fixed r line.2 line.1).1.trans hskip)
    rw [List.filter_cons, List.countP_cons, accepts_cons, after, haccepts, hafter]
    cases hblank : line.1.all Text.isBlank with
    | true =>
      rw [step_of_blank hskip hblank line.2, after_countMore, accepts_countMore,
        countMore_countMore]
      simp [Outcome.fault?, Nat.add_comm]
    | false =>
      simp [accepts_cons, after]

/-! ## The three runs -/

/-- Trace lines and all other lines are processed independently. A run accepts some lines exactly if
runs with the same options accept the trace lines among them and the others. Also if lines were
rejected, the trace entries of every stream are the stream of the run that is fed the trace lines,
its blocks are the stream of the run that is fed the others, and the counters are those of the two:
trace lines are counted by the first, registers, snapshots and blank lines by the second, and all
lines by both. Where blank lines are skipped, none of them makes a difference but that it is
counted. -/
theorem lines_independent (cores : Nat) (skipBlank : Bool)
    (lines traces others : List (Text × Nat))
    (htraces : traces.map Prod.fst = (lines.map Prod.fst).filter Line.isTrace)
    (hothers : others.map Prod.fst =
      (lines.map Prod.fst).filter fun text => !Line.isTrace text) :
    let r := start cores skipBlank
    let whole := (r.after lines).report
    let traced := (r.after traces).report
    let registered := (r.after others).report
    (r.Accepts lines ↔ r.Accepts traces ∧ r.Accepts others) ∧
    traced.timeline.globalStream =
      Timeline.render (whole.timeline.entries.toList.filter fun e => !e.isBlock) ∧
    registered.timeline.globalStream =
      Timeline.render (whole.timeline.entries.toList.filter Entry.isBlock) ∧
    (∀ core < cores,
      traced.timeline.coreStream? core = some (Timeline.render
        ((whole.timeline.entries.toList.filter fun e => e.core? = some core).filter
          fun e => !e.isBlock)) ∧
      registered.timeline.coreStream? core = some (Timeline.render
        ((whole.timeline.entries.toList.filter fun e => e.core? = some core).filter
          Entry.isBlock))) ∧
    whole.tally = traced.tally.merge registered.tally ∧
    (skipBlank = true → ∀ dense : List (Text × Nat),
      dense.map Prod.fst = (lines.map Prod.fst).filter (fun text => !text.all Text.isBlank) →
      (r.Accepts lines ↔ r.Accepts dense) ∧
      whole.timeline = (r.after dense).report.timeline ∧
      whole.tally = (r.after dense).report.tally.countMore
        (lines.countP fun line => line.1.all Text.isBlank)
        (lines.countP fun line => line.1.all Text.isBlank)) := by
  intro r whole traced registered
  have htraces' : traces.map Prod.fst =
      (lines.filter fun line => Line.isTrace line.1).map Prod.fst := htraces.trans List.filter_map
  have hothers' : others.map Prod.fst =
      (lines.filter fun line => !Line.isTrace line.1).map Prod.fst := hothers.trans List.filter_map
  obtain ⟨haccepts, hapart⟩ := (Apart.start cores skipBlank).after lines
  -- the positions of the lines do not matter
  rw [← accepts_congr htraces', ← accepts_congr hothers'] at haccepts
  rw [← after_congr htraces', ← after_congr hothers'] at hapart
  have hcores : whole.timeline.cores = cores := (cores_after_start cores skipBlank lines).2
  have htraced : traced.timeline = whole.timeline.only fun e => !e.isBlock := hapart.traces
  have hregistered : registered.timeline = whole.timeline.only Entry.isBlock := hapart.blocks
  rw [htraced, hregistered]
  refine ⟨haccepts, Timeline.globalStream_only _ _, Timeline.globalStream_only _ _,
    fun core hcore => ?_, hapart.tally_report.symm, fun hskip dense hdense => ?_⟩
  · rw [← hcores] at hcore
    exact ⟨Timeline.coreStream?_only hcore _, Timeline.coreStream?_only hcore _⟩
  · have hdense' : dense.map Prod.fst =
        (lines.filter fun line => !line.1.all Text.isBlank).map Prod.fst :=
      hdense.trans List.filter_map
    obtain ⟨hkept, hafter⟩ := after_spaced (r := r) hskip lines
    rw [← accepts_congr hdense'] at hkept
    rw [← after_congr hdense'] at hafter
    refine ⟨hkept, congrArg (fun r => r.report.timeline) hafter, ?_⟩
    exact congrArg (fun r => r.report.tally) hafter

/-- A trace line within a snapshot, one behind it, and a blank line. -/
def mixed : Recording :=
  ["mhartid 1", "riscv: hart:2, nop", "pc 10", " ", "riscv: hart:0, x", "pc 14"].map Text.of

/-- Taken apart, the log has the traces in one run and the block in the other. -/
theorem lines_independent_of_mixed :
    let r := start 2 true
    let traces := (["riscv: hart:2, nop", "riscv: hart:0, x"].map Text.of).zipIdx
    let others := (["mhartid 1", "pc 10", " ", "pc 14"].map Text.of).zipIdx
    let dense := (["mhartid 1", "riscv: hart:2, nop", "pc 10", "riscv: hart:0, x", "pc 14"].map
      Text.of).zipIdx
    r.Accepts mixed.zipIdx ∧ r.Accepts traces ∧ r.Accepts others ∧ r.Accepts dense ∧
      (r.after traces).report.timeline.globalStream =
        Text.of "riscv: hart:2, nop\n\nriscv: hart:0, x\n\n" ∧
      (r.after others).report.timeline.globalStream =
        Text.of "Core 0:\nmhartid = 1\npc = 10\n\n" ∧
      (r.after mixed.zipIdx).report.tally.lines = 6 ∧
      (r.after mixed.zipIdx).report.timeline = (r.after dense).report.timeline := by
  intro r traces others dense
  have htraces : traces.map Prod.fst = (mixed.zipIdx.map Prod.fst).filter Line.isTrace := by
    decide +kernel
  have hothers : others.map Prod.fst =
      (mixed.zipIdx.map Prod.fst).filter fun text => !Line.isTrace text := by decide +kernel
  have hdense : dense.map Prod.fst =
      (mixed.zipIdx.map Prod.fst).filter fun text => !text.all Text.isBlank := by decide +kernel
  obtain ⟨haccepts, htraced, hregistered, -, htally, hspaced⟩ :=
    lines_independent 2 true mixed.zipIdx traces others htraces hothers
  obtain ⟨hkept, htimeline, -⟩ := hspaced rfl dense hdense
  have hwhole : r.Accepts mixed.zipIdx := by decide +kernel
  refine ⟨hwhole, (haccepts.1 hwhole).1, (haccepts.1 hwhole).2, hkept.1 hwhole,
    htraced.trans ?_, hregistered.trans ?_, (congrArg Tally.lines htally).trans ?_, htimeline⟩
  · decide +kernel
  · decide +kernel
  · decide +kernel

end Run

end HartTimeline
