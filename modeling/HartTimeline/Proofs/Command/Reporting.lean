import HartTimeline.Proofs.Command.AllOrNothing
import HartTimeline.Proofs.Log.Setting

/-!
# Reporting

What an invocation reports does not change what it does: two invocations that differ in nothing but
verdicts, summaries and diagnostics have the same status and leave the same files. A summary in JSON
does not tell them apart either. For the log settings this rests on one thing, that reading them
does not end the program; a setting that does so is told apart by the exit status.

Main statement: `reporting_changes_nothing`.
-/

namespace HartTimeline

namespace Invocation

/-- Two invocations have the same task if they differ at most in what they report. -/
structure SameTask (inv inv' : Invocation) : Prop where
  log : inv'.log = inv.log
  outputDir? : inv'.outputDir? = inv.outputDir?
  cores? : inv'.cores? = inv.cores?
  skipBlank : inv'.skipBlank = inv.skipBlank
  config? : inv'.config? = inv.config?

/-- Every transcript that an invocation names can be read. -/
def HasTranscript (inv : Invocation) (read : FileReader) : Prop :=
  ∀ path ∈ inv.transcript?, ∃ transcript, read path = .ok transcript

variable {inv inv' : Invocation} {read : FileReader} {refusal : FileTree.Refusal} {p : Prepared}
  {tree : FileTree}

namespace SameTask

theorem symm (h : SameTask inv inv') : SameTask inv' inv :=
  ⟨h.log.symm, h.outputDir?.symm, h.cores?.symm, h.skipBlank.symm, h.config?.symm⟩

/-- One task has one set of options. -/
theorem options (h : SameTask inv inv') (read : FileReader) :
    inv'.options read = inv.options read := by
  have hoverride (base : Options) : base.override inv' = base.override inv := by
    rw [Options.override, Options.override, h.cores?, h.skipBlank, h.outputDir?]
  rw [Invocation.options, Invocation.options, h.config?]
  simp only [hoverride]

/-- Where one invocation gets to the point of writing, so does another one with the same task, and
it is about to write the same. -/
theorem exists_prepare (h : SameTask inv inv') (htranscript : inv'.HasTranscript read)
    (hp : (inv.prepare read).result = .ok p) :
    ∃ p', (inv'.prepare read).result = .ok p' ∧ p'.options = p.options ∧ p'.report = p.report := by
  obtain ⟨hoptions, ⟨log, hlog, hreport, -⟩, -⟩ := prepare_eq_ok_iff.1 hp
  obtain ⟨debugger?, hdebugger⟩ := exists_debugger_eq_ok_iff.2 htranscript
  rw [← h.options] at hoptions
  rw [← h.log] at hlog
  exact ⟨⟨p.options, p.report, inv'.successMarker?.map (Trial.ofOutput log), debugger?⟩,
    prepare_eq_ok_iff.2 ⟨hoptions, ⟨log, hlog, hreport, rfl⟩, hdebugger⟩, rfl, rfl⟩

/-- Two invocations with one task succeed together, and leave the same files. -/
theorem run (h : SameTask inv inv') (htranscript : inv.HasTranscript read)
    (htranscript' : inv'.HasTranscript read) (refusal : FileTree.Refusal) (tree : FileTree) :
    ((inv'.run read refusal tree).status = 0 ↔ (inv.run read refusal tree).status = 0) ∧
      (inv'.run read refusal tree).tree = (inv.run read refusal tree).tree := by
  cases hp : (inv.prepare read).result with
  | ok p =>
    obtain ⟨p', hp', hoptions, hreport⟩ := h.exists_prepare htranscript' hp
    obtain ⟨hstatus, htree⟩ := run_of_prepare_eq_ok hp
    obtain ⟨hstatus', htree'⟩ := run_of_prepare_eq_ok hp'
    rw [hstatus, htree, hstatus', htree', hoptions, hreport]
    exact ⟨Iff.rfl, rfl⟩
  | error fault =>
    cases hp' : (inv'.prepare read).result with
    | ok p' =>
      obtain ⟨p, hok, -⟩ := h.symm.exists_prepare htranscript hp'
      cases hp.symm.trans hok
    | error fault' =>
      rw [run_of_prepare_eq_error hp, run_of_prepare_eq_error hp']
      exact ⟨Iff.rfl, rfl⟩

theorem status_run (h : SameTask inv inv') (htranscript : inv.HasTranscript read)
    (htranscript' : inv'.HasTranscript read) (refusal : FileTree.Refusal) (tree : FileTree) :
    (inv'.run read refusal tree).status = (inv.run read refusal tree).status := by
  have hiff := (h.run htranscript htranscript' refusal tree).1
  obtain ⟨hzero, -⟩ | ⟨hone, -⟩ := Invocation.status_run inv read refusal tree
  · rw [hzero, hiff.2 hzero]
  · obtain ⟨hzero', -⟩ | ⟨hone', -⟩ := Invocation.status_run inv' read refusal tree
    · rw [hiff.1 hzero'] at hone
      cases hone
    · rw [hone, hone']

end SameTask

/-! ## Summaries in JSON -/

/-- An invocation that asks for a summary in JSON. -/
structure AsksForJson (inv : Invocation) : Prop where
  summary : inv.summary = true
  format : inv.format = .json

/-- All that is printed then is the summary of the counters and of the verdict on the log, on a
line. -/
theorem output_run_of_asksForJson (hjson : inv.AsksForJson)
    (hstatus : (inv.run read refusal tree).status = 0) :
    ∃ options log report, inv.options read = .ok options ∧ read inv.log = .ok log ∧
      Report.ofLog options.cores options.skipBlank log = .ok report ∧
      (inv.run read refusal tree).output =
        (Summary.mk report.tally (inv.successMarker?.map (Trial.ofOutput log))).renderJson
          ++ ['\n'] := by
  obtain ⟨p, tree', paths, hp, hsave⟩ := exists_save_of_status_eq_zero hstatus
  obtain ⟨hoptions, ⟨log, hlog, hreport, htrial⟩, -⟩ := prepare_eq_ok_iff.1 hp
  refine ⟨p.options, log, p.report, hoptions, hlog, hreport, ?_⟩
  rw [run_of_save_eq_ok hp hsave, output, hjson.summary, hjson.format, htrial]

/-- Two invocations with one task and the same success marker print the same summary in JSON. -/
theorem SameTask.output_run (h : SameTask inv inv') (htranscript : inv.HasTranscript read)
    (htranscript' : inv'.HasTranscript read) (hjson : inv.AsksForJson)
    (hjson' : inv'.AsksForJson) (hmarker : inv'.successMarker? = inv.successMarker?) :
    (inv'.run read refusal tree).output = (inv.run read refusal tree).output := by
  have hstatus := h.status_run htranscript htranscript' refusal tree
  obtain ⟨hzero, -⟩ | ⟨hone, -, hnothing⟩ := Invocation.status_run inv read refusal tree
  · obtain ⟨options, log, report, hoptions, hlog, hreport, houtput⟩ :=
      output_run_of_asksForJson hjson hzero
    obtain ⟨options', log', report', hoptions', hlog', hreport', houtput'⟩ :=
      output_run_of_asksForJson hjson' (hstatus.trans hzero)
    cases hoptions.symm.trans ((h.options _).symm.trans hoptions')
    cases hlog.symm.trans ((congrArg _ h.log).symm.trans hlog')
    cases hreport.symm.trans hreport'
    rw [houtput, houtput', hmarker]
  · obtain ⟨hzero', -⟩ | ⟨-, -, hnothing'⟩ := Invocation.status_run inv' read refusal tree
    · cases hone.symm.trans (hstatus.symm.trans hzero')
    · rw [hnothing, hnothing']

end Invocation

/-! ## The command -/

variable {logs : LogReader} {read : FileReader} {refusal : FileTree.Refusal} {args args' : List Text}
  {inv inv' : Invocation} {setting setting' : Option Text} {tree : FileTree}

/-- A log setting that ends the program does so before anything is read, written or printed. -/
theorem commandUnder_of_not_reads (hargs : Invocation.ofArguments args = .ok inv)
    (hlogs : ¬logs.Reads inv.debug setting) :
    commandUnder logs read refusal args setting tree =
      ⟨101, [], (logs inv.debug setting).complaints, [], [], tree⟩ := by
  have hended : (logs inv.debug setting).shows? = none := not_not.1 hlogs
  simp only [commandUnder, hargs, hended]
  rfl

/-- A blank of two bytes in front of a directive shifts the end of its target into the blank. -/
example :
    let log : FileTree := ⟨[], Assoc.ofList [([Text.of "log"], .file (.text []))]⟩
    (command [Text.of "log"] (some (Text.of "\u00a0a=debug")) log).status = 101 ∧
      (command [Text.of "log"] (some (Text.of "a=debug\u00a0")) log).status = 0 := by
  decide +kernel

/-- A log setting that is read decides on nothing but what is told. -/
theorem commandUnder_of_reads (hargs : Invocation.ofArguments args = .ok inv)
    (hlogs : logs.Reads inv.debug setting) (read : FileReader) (refusal : FileTree.Refusal)
    (tree : FileTree) :
    let result := commandUnder logs read refusal args setting tree
    let outcome := inv.run read refusal tree
    result.status = outcome.status ∧ result.output = outcome.output ∧
      result.tree = outcome.tree := by
  obtain ⟨shows, hshows⟩ := Option.ne_none_iff_exists'.1 hlogs
  simp [commandUnder, hargs, hshows]

/-- What the command reports never changes what it does. Two argument lists with one task, run in
any two log settings, have the same status and leave the same files, whatever the verdicts are; a
transcript only has to be there. If both ask for a summary in JSON with the same success marker,
they print the same: the summary on a line if the run succeeds, and nothing if it fails. Of the way
in which log settings are read only this is asked, that it does not end the program; it is
documented to pass over, or to refuse, what it cannot make sense of. -/
theorem reporting_changes_nothing {logs : LogReader} {read : FileReader}
    (refusal : FileTree.Refusal) {args args' : List Text} {inv inv' : Invocation}
    (hargs : Invocation.ofArguments args = .ok inv)
    (hargs' : Invocation.ofArguments args' = .ok inv') (htask : inv.SameTask inv')
    (htranscript : inv.HasTranscript read) (htranscript' : inv'.HasTranscript read)
    {setting setting' : Option Text} (hlogs : logs.Reads inv.debug setting)
    (hlogs' : logs.Reads inv'.debug setting') (tree : FileTree) :
    let result := commandUnder logs read refusal args setting tree
    let result' := commandUnder logs read refusal args' setting' tree
    result'.status = result.status ∧ result'.tree = result.tree ∧
    (inv.AsksForJson → inv'.AsksForJson → inv'.successMarker? = inv.successMarker? →
      result'.output = result.output ∧
      (result.status = 0 →
        ∃ options log report, inv.options read = .ok options ∧ read inv.log = .ok log ∧
          Report.ofLog options.cores options.skipBlank log = .ok report ∧
          result.output =
            (Summary.mk report.tally
              (inv.successMarker?.map (Trial.ofOutput log))).renderJson ++ ['\n']) ∧
      (result.status ≠ 0 → result.output = [])) := by
  intro result result'
  obtain ⟨hstatus, houtput, htree⟩ := commandUnder_of_reads hargs hlogs read refusal tree
  obtain ⟨hstatus', houtput', htree'⟩ := commandUnder_of_reads hargs' hlogs' read refusal tree
  rw [hstatus, hstatus', houtput, houtput', htree, htree']
  refine ⟨htask.status_run htranscript htranscript' refusal tree,
    (htask.run htranscript htranscript' refusal tree).2, ?_⟩
  intro hjson hjson' hmarker
  refine ⟨htask.output_run htranscript htranscript' hjson hjson' hmarker,
    Invocation.output_run_of_asksForJson hjson, fun hfailed => ?_⟩
  obtain ⟨hzero, -⟩ | ⟨-, -, hnothing⟩ := Invocation.status_run inv read refusal tree
  · exact absurd hzero hfailed
  · exact hnothing

/-- A log that shows an exception, and the transcript of a debugger run that failed. -/
def failedTranscript : FileTree where
  home := [Text.of "w"]
  nodes := Assoc.ofList [
    ([Text.of "w", Text.of "log"],
      .file (.text (Text.of "mhartid 1\npc 10\nriscv: hart:1, Exception(2)\npc 14\n"))),
    ([Text.of "w", Text.of "gdb"], .file (.text (Text.of "<FAILED>")))]

/-- Arguments that ask for a summary in JSON and for a verdict. -/
def verdictArguments : List Text :=
  ["-c", "--format", "json", "--success-marker", "OK", "log"].map Text.of

/-- The same with a transcript. -/
def transcriptArguments : List Text :=
  ["-c", "--debug", "--format=json", "--success-marker=OK", "--debugger-transcript", "gdb",
    "log"].map Text.of

/-- Both verdicts being bad, the command succeeds and prints what it prints without the
transcript. -/
theorem reporting_changes_nothing_of_failedTranscript :
    (command transcriptArguments (some (Text.of "off")) failedTranscript).status = 0 ∧
      (command transcriptArguments (some (Text.of "off")) failedTranscript).tree =
        (command verdictArguments none failedTranscript).tree ∧
      (command transcriptArguments (some (Text.of "off")) failedTranscript).output =
        (command verdictArguments none failedTranscript).output ∧
      (command transcriptArguments (some (Text.of "off")) failedTranscript).events ≠
        (command verdictArguments none failedTranscript).events := by
  have hargs : Invocation.ofArguments verdictArguments = .ok ⟨Text.of "log", none, none, false,
      none, true, .json, some (Text.of "OK"), none, false⟩ := by decide +kernel
  have hargs' : Invocation.ofArguments transcriptArguments = .ok ⟨Text.of "log", none, none, false,
      none, true, .json, some (Text.of "OK"), some (Text.of "gdb"), true⟩ := by decide +kernel
  have htranscript' : failedTranscript.readText (Text.of "gdb") = .ok (Text.of "<FAILED>") := by
    decide +kernel
  have hstatus : (command verdictArguments none failedTranscript).status = 0 := by decide +kernel
  have hlogs : LogFilter.reader.Reads false none := LogFilter.reads_none false
  have hlogs' : LogFilter.reader.Reads true (some (Text.of "off")) := by
    refine LogFilter.reads_of_forall_not_blank (fun p hp c hc => ?_) true
    obtain rfl : p = Text.of "off" := List.mem_singleton.1 hp
    obtain rfl : 'o' = c := Option.some.inj hc
    rfl
  obtain ⟨hsame, htree, houtput⟩ := reporting_changes_nothing .never hargs hargs'
    ⟨rfl, rfl, rfl, rfl, rfl⟩ nofun (by rintro path ⟨⟩; exact ⟨_, htranscript'⟩) hlogs hlogs'
    failedTranscript
  exact ⟨hsame.trans hstatus, htree, (houtput ⟨rfl, rfl⟩ ⟨rfl, rfl⟩ rfl).1, by decide +kernel⟩

end HartTimeline
