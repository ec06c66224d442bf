import HartTimeline.Command
import HartTimeline.Proofs.Command.Prepare
import HartTimeline.Proofs.Streams

/-!
# All or nothing

A run that is hindered leaves the files as they were, and a run that fails prints nothing. A run
that succeeds has written all streams, and they are those of the log as it was before, even if a
stream took the place of the log. It is all the same why the system refuses to read a file, and
where and how it breaks off the writing.

Main statement: `Invocation.writes_all_or_nothing`.
-/

namespace HartTimeline

/-- What is read is what the files of a tree hold. A file may be unreadable for other reasons than
those in the tree, such as missing rights. -/
def FileReader.ReadsFrom (read : FileReader) (tree : FileTree) : Prop :=
  ∀ path text, read path = .ok text → tree.readText path = .ok text

theorem FileReader.readsFrom_readText (tree : FileTree) : FileReader.ReadsFrom tree.readText tree :=
  fun _ _ h => h

namespace Invocation

variable {inv : Invocation} {read : FileReader} {refusal : FileTree.Refusal}
  {tree tree' : FileTree} {p : Prepared}

/-! ## How a run ends -/

/-- A fault before writing ends the run at once. -/
theorem run_of_prepare_eq_error {fault : CommandFault}
    (h : (inv.prepare read).result = .error fault) :
    inv.run read refusal tree = ⟨1, [], some fault, (inv.prepare read).events, tree⟩ := by
  rw [run, h]

/-- A fault of writing leaves what was written until then. -/
theorem run_of_save_eq_error {cause : FileFault} (h : (inv.prepare read).result = .ok p)
    (hsave : p.report.timeline.saveUnder refusal p.options.outputDir tree =
      (tree', .error cause)) :
    inv.run read refusal tree = ⟨1, [], some (.unwritten p.options.outputDir cause),
      (inv.prepare read).events, tree'⟩ := by
  simp only [run, h, hsave]

/-- Only a run that has written everything prints. -/
theorem run_of_save_eq_ok {paths : List Text} (h : (inv.prepare read).result = .ok p)
    (hsave : p.report.timeline.saveUnder refusal p.options.outputDir tree = (tree', .ok paths)) :
    inv.run read refusal tree = ⟨0, inv.output p, none,
      (inv.prepare read).events
        ++ [.streamsWritten p.options.outputDir paths.length], tree'⟩ := by
  simp only [run, h, hsave]

/-- Where writing begins, the options and the report alone decide what files are left and whether
all of them could be written. -/
theorem run_of_prepare_eq_ok (h : (inv.prepare read).result = .ok p) :
    ((inv.run read refusal tree).status = 0 ↔
      ∃ paths, (p.report.timeline.saveUnder refusal p.options.outputDir tree).2 = .ok paths) ∧
    (inv.run read refusal tree).tree =
      (p.report.timeline.saveUnder refusal p.options.outputDir tree).1 := by
  rcases hsave : p.report.timeline.saveUnder refusal p.options.outputDir tree with
    ⟨tree', cause | paths⟩
  · simp [run_of_save_eq_error h hsave]
  · simp [run_of_save_eq_ok h hsave]

/-! ## What a run leaves -/

/-- A run succeeds without a fault, or it fails with one and prints nothing. -/
theorem status_run (inv : Invocation) (read : FileReader) (refusal : FileTree.Refusal)
    (tree : FileTree) :
    (inv.run read refusal tree).status = 0 ∧ (inv.run read refusal tree).fault? = none ∨
      (inv.run read refusal tree).status = 1 ∧ (inv.run read refusal tree).fault? ≠ none ∧
        (inv.run read refusal tree).output = [] := by
  cases h : (inv.prepare read).result with
  | error fault => simp [run_of_prepare_eq_error h]
  | ok p =>
    rcases hsave : p.report.timeline.saveUnder refusal p.options.outputDir tree with
      ⟨tree', cause | paths⟩
    · simp [run_of_save_eq_error h hsave]
    · simp [run_of_save_eq_ok h hsave]

/-- A run that is hindered leaves the files alone. -/
theorem tree_run_of_hindered (hhindered : inv.Hindered read) :
    (inv.run read refusal tree).tree = tree := by
  cases h : (inv.prepare read).result with
  | error fault => rw [run_of_prepare_eq_error h]
  | ok p => exact absurd hhindered (exists_prepare_eq_ok_iff.1 ⟨p, h⟩)

/-- What hinders a run is reported, and what is reported of any other run is a fault of writing. -/
theorem hindered_iff_fault (inv : Invocation) (read : FileReader) (refusal : FileTree.Refusal)
    (tree : FileTree) :
    inv.Hindered read ↔
      ∃ fault ∈ (inv.run read refusal tree).fault?,
        ∀ directory cause, fault ≠ .unwritten directory cause := by
  cases h : (inv.prepare read).result with
  | error fault =>
    have hhindered : inv.Hindered read := by
      by_contra hfree
      obtain ⟨p, hp⟩ := exists_prepare_eq_ok_iff.2 hfree
      cases h.symm.trans hp
    have hfault : ∀ directory cause, fault ≠ .unwritten directory cause := by
      rintro directory cause rfl
      exact prepare_ne_unwritten inv read directory cause h
    simpa [run_of_prepare_eq_error h, hhindered] using hfault
  | ok p =>
    have hfree : ¬inv.Hindered read := exists_prepare_eq_ok_iff.1 ⟨p, h⟩
    rcases hsave : p.report.timeline.saveUnder refusal p.options.outputDir tree with
      ⟨tree', cause | paths⟩
    · simp [run_of_save_eq_error h hsave, hfree]
    · simp [run_of_save_eq_ok h hsave, hfree]

/-- A run that succeeds has got to the point of writing, and has written everything. -/
theorem exists_save_of_status_eq_zero (hstatus : (inv.run read refusal tree).status = 0) :
    ∃ p tree' paths, (inv.prepare read).result = .ok p ∧
      p.report.timeline.saveUnder refusal p.options.outputDir tree = (tree', .ok paths) := by
  cases h : (inv.prepare read).result with
  | error fault =>
    rw [run_of_prepare_eq_error h] at hstatus
    cases hstatus
  | ok p =>
    rcases hsave : p.report.timeline.saveUnder refusal p.options.outputDir tree with
      ⟨tree', cause | paths⟩
    · rw [run_of_save_eq_error h hsave] at hstatus
      cases hstatus
    · exact ⟨p, tree', paths, rfl, hsave⟩

/-- A run of the command writes all or nothing, up to faults of writing itself, whichever files the
system refuses to read and wherever it breaks off the writing. Status 0 stands for a run without a
fault, and status 1 for one with a fault and without output. A run is hindered, be it by the last
line of the log, exactly if it has a fault other than one of writing, and it leaves all files and
directories as they were then. After status 0 each stream of the log is in its file, the log being
what it was before the run. -/
theorem writes_all_or_nothing (inv : Invocation) {read : FileReader} {tree : FileTree}
    (hread : read.ReadsFrom tree) (refusal : FileTree.Refusal) :
    let outcome := inv.run read refusal tree
    (outcome.status = 0 ∧ outcome.fault? = none ∨
      outcome.status = 1 ∧ outcome.fault? ≠ none ∧ outcome.output = []) ∧
    (inv.Hindered read ↔
      ∃ fault ∈ outcome.fault?, ∀ directory cause, fault ≠ .unwritten directory cause) ∧
    (inv.Hindered read → outcome.tree = tree) ∧
    (outcome.status = 0 →
      ∃ options log report, inv.options read = .ok options ∧
        read inv.log = .ok log ∧ tree.readText inv.log = .ok log ∧
        Report.ofLog options.cores options.skipBlank log = .ok report ∧
        outcome.tree.readText (Path.join options.outputDir globalStreamName) =
          .ok report.timeline.globalStream ∧
        ∀ core < options.cores,
          outcome.tree.readText (Path.join options.outputDir (coreStreamName core)) =
            .ok (report.timeline.coreStream core)) := by
  intro outcome
  refine ⟨status_run inv read refusal tree, hindered_iff_fault inv read refusal tree,
    tree_run_of_hindered, fun hstatus => ?_⟩
  obtain ⟨p, tree', paths, hp, hsave⟩ := exists_save_of_status_eq_zero hstatus
  obtain ⟨hoptions, ⟨log, hlog, hreport, -⟩, -⟩ := prepare_eq_ok_iff.1 hp
  have hfiles := Timeline.readText_of_saveUnder hsave
  have hcores : p.report.timeline.cores = p.options.cores := by
    rw [← (Run.ofLog_eq_ok_iff.1 hreport).2]
    exact (Run.cores_after_start _ _ _).2
  have htree : outcome.tree = tree' := congrArg CommandOutcome.tree (run_of_save_eq_ok hp hsave)
  rw [htree]
  refine ⟨p.options, log, p.report, hoptions, hlog, hread _ _ hlog, hreport,
    hfiles _ List.mem_cons_self, ?_⟩
  intro core hcore
  exact hfiles _ (Timeline.mem_named (hcores.symm ▸ hcore))

end Invocation

/-- A log of one core where the global stream goes. -/
def logAsStream : FileTree where
  home := [Text.of "w"]
  nodes := Assoc.ofList [([Text.of "w", globalStreamName],
    .file (.text (Text.of "mhartid 1\npc 10\nriscv: hart:1, nop\npc 14\n")))]

/-- The invocation that reads it there. -/
def readsStream : Invocation :=
  ⟨globalStreamName, none, some 1, false, none, false, .text, none, none, false⟩

/-- A reader without the right to read anything. -/
def readsNothing : FileReader := fun _ => .error (.other (Text.of "Permission denied (os error 13)"))

theorem FileReader.readsFrom_readsNothing (tree : FileTree) : readsNothing.ReadsFrom tree := nofun

/-- The stream takes the place of the log that it comes from. Where the log must not be read, it
stays as it is; where the disk has no space for the core's stream, the run is not hindered but fails
nevertheless, and prints nothing. -/
theorem Invocation.writes_all_or_nothing_of_logAsStream :
    let done := readsStream.run logAsStream.readText .never logAsStream
    let full := readsStream.run logAsStream.readText
      (Timeline.noSpaceFor (Text.of "./sanitized_log_0.log")) logAsStream
    done.status = 0 ∧
      done.tree.readText globalStreamName =
        .ok (Text.of "riscv: hart:1, nop\n\nCore 0:\nmhartid = 1\npc = 10\n\n") ∧
      readsStream.Hindered readsNothing ∧
      (readsStream.run readsNothing .never logAsStream).tree = logAsStream ∧
      ¬readsStream.Hindered logAsStream.readText ∧ full.status = 1 ∧ full.output = [] := by
  intro done full
  have hread : FileReader.ReadsFrom logAsStream.readText logAsStream :=
    FileReader.readsFrom_readText logAsStream
  have hdone : done.status = 0 := by decide +kernel
  have hdenied : readsStream.Hindered readsNothing := .log rfl
  have hfull : full.status = 1 := by decide +kernel
  obtain ⟨-, hfault, -⟩ := writes_all_or_nothing readsStream hread .never
  obtain ⟨-, -, hkept, -⟩ :=
    writes_all_or_nothing readsStream (FileReader.readsFrom_readsNothing logAsStream) .never
  obtain ⟨hstatus, -⟩ := writes_all_or_nothing readsStream hread
    (Timeline.noSpaceFor (Text.of "./sanitized_log_0.log"))
  -- a run without a fault was not hindered, and what hinders does not depend on the disk
  have hfree : ¬readsStream.Hindered logAsStream.readText := by
    intro hhindered
    obtain ⟨fault, hfault, -⟩ := hfault.1 hhindered
    have hnone : done.fault? = none := by decide +kernel
    rw [hnone] at hfault
    cases hfault
  obtain ⟨hzero, -⟩ | ⟨-, -, hnothing⟩ := hstatus
  · exact absurd (hfull.symm.trans hzero) (by decide)
  · exact ⟨hdone, by decide +kernel, hdenied, hkept hdenied, hfree, hfull, hnothing⟩

end HartTimeline
