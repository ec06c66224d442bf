import HartTimeline.Command.Prepare
import HartTimeline.Proofs.Recording.Faults

/-!
# What has to be right before anything is written

An invocation gets to the point of writing exactly if nothing hinders it, and what hinders it is
seen from the files that it names: one cannot be read, the options are refused, or a line of the log
is faulty.

Main statements: `exists_prepare_eq_ok_iff`, when writing begins, and `prepare_eq_ok_iff`, what is
known then.
-/

namespace HartTimeline

/-! ## Results -/

theorem exists_eq_ok_iff {α ε : Type} {r : Except ε α} : (∃ a, r = .ok a) ↔ ∀ e, r ≠ .error e := by
  cases r <;> simp

theorem mapError_eq_ok_iff {α ε ε' : Type} {r : Except ε α} {f : ε → ε'} {a : α} :
    r.mapError f = .ok a ↔ r = .ok a := by
  cases r <;> simp [Except.mapError]

theorem mapError_eq_error_iff {α ε ε' : Type} {r : Except ε α} {f : ε → ε'} {e : ε'} :
    r.mapError f = .error e ↔ ∃ cause, r = .error cause ∧ f cause = e := by
  cases r <;> simp [Except.mapError]

namespace Told

variable {α β : Type}

@[simp] theorem result_pure (a : α) : (pure a : Told α).result = .ok a := rfl

@[simp] theorem result_ofExcept (r : Except CommandFault α) : (ofExcept r).result = r := rfl

/-- Work that goes on with the result of other work has a result if both have one. -/
theorem result_bind_eq_ok_iff {x : Told α} {f : α → Told β} {b : β} :
    (x >>= f).result = .ok b ↔ ∃ a, x.result = .ok a ∧ (f a).result = .ok b := by
  have hbind : x >>= f = x.andThen f := rfl
  rw [hbind, andThen]
  cases x.result <;> simp

/-- Work that goes on with the result of other work fails if one of them does. -/
theorem result_bind_eq_error_iff {x : Told α} {f : α → Told β} {fault : CommandFault} :
    (x >>= f).result = .error fault ↔
      x.result = .error fault ∨ ∃ a, x.result = .ok a ∧ (f a).result = .error fault := by
  have hbind : x >>= f = x.andThen f := rfl
  rw [hbind, andThen]
  cases x.result <;> simp

end Told

/-! ## Options -/

namespace Options

variable {options base : Options}

theorem check_eq_ok_iff : options.check = .ok base ↔ options.cores ≠ 0 ∧ base = options := by
  rw [check]
  split <;> simp_all [eq_comm]

/-- A configuration never gives options that track no core. -/
theorem cores_ne_zero_of_ofToml {text : Text} (h : ofToml text = .ok options) :
    options.cores ≠ 0 := by
  rw [ofToml] at h
  split at h
  · cases h
  · obtain ⟨hcores, rfl⟩ := check_eq_ok_iff.1 h
    exact hcores

/-- Only the arguments can leave options without a core to track. -/
theorem cores_override_ne_zero_iff {inv : Invocation} (h : base.cores ≠ 0) :
    (base.override inv).cores ≠ 0 ↔ inv.cores? ≠ some 0 := by
  rw [override]
  cases inv.cores? <;> simp [h]

end Options

namespace Invocation

variable {inv : Invocation} {read : FileReader} {options : Options}

/-- An invocation has options if the configuration that it names gives some and the arguments do
not set the number of cores to 0. -/
theorem exists_options_eq_ok_iff :
    (∃ options, inv.options read = .ok options) ↔
      (∀ path ∈ inv.config?, ∃ text base, read path = .ok text ∧ Options.ofToml text = .ok base) ∧
        inv.cores? ≠ some 0 := by
  have hcheck {base : Options} (hbase : base.cores ≠ 0) :
      (∃ options, ((base.override inv).check.mapError CommandFault.options) = .ok options) ↔
        inv.cores? ≠ some 0 := by
    simp [mapError_eq_ok_iff, Options.check_eq_ok_iff, Options.cores_override_ne_zero_iff hbase]
  rw [options]
  cases inv.config? with
  | none => simpa using @hcheck {} (by decide)
  | some path =>
    cases hread : read path with
    | error cause => simp [Options.ofFile, hread, Except.mapError]
    | ok text =>
      cases htoml : Options.ofToml text with
      | error cause => simp [Options.ofFile, hread, htoml, Except.mapError]
      | ok base =>
        simpa [Options.ofFile, hread, htoml, Except.mapError] using
          hcheck (Options.cores_ne_zero_of_ofToml htoml)

/-- Options that are refused are no fault of writing. -/
theorem options_ne_unwritten {directory : Text} {cause : FileFault} :
    inv.options read ≠ .error (.unwritten directory cause) := by
  rw [options]
  intro h
  split at h
  case h_1 fault hbase =>
    cases h
    split at hbase
    · cases hbase
    · obtain ⟨fault, -, hfault⟩ := mapError_eq_error_iff.1 hbase
      cases hfault
  case h_2 base hbase =>
    obtain ⟨fault, -, hfault⟩ := mapError_eq_error_iff.1 h
    cases hfault

/-! ## Parts of the work -/

/-- The log is judged as a trial output if a success marker is given. -/
theorem trial_eq_ok_iff {log : Text} (h : read inv.log = .ok log) {trial? : Option Trial} :
    (inv.trial read).result = .ok trial? ↔
      trial? = inv.successMarker?.map (Trial.ofOutput log) := by
  rw [trial]
  cases inv.successMarker? with
  | none => simp [eq_comm]
  | some marker => simp [Trial.ofFile, h, Except.map, eq_comm]

/-- A transcript is judged if it can be read. -/
theorem exists_debugger_eq_ok_iff :
    (∃ debugger?, (inv.debugger read).result = .ok debugger?) ↔
      ∀ path ∈ inv.transcript?, ∃ transcript, read path = .ok transcript := by
  rw [debugger]
  cases inv.transcript? with
  | none => simp
  | some path => cases hread : read path <;> simp [DebuggerVerdict.ofFile, hread, Except.map]

/-- The log has a report if it can be read and its lines have one. -/
theorem report_eq_ok_iff {report : Report} :
    (inv.report read options).result = .ok report ↔
      ∃ log, read inv.log = .ok log ∧
        Report.ofLog options.cores options.skipBlank log = .ok report := by
  rw [Invocation.report, mapError_eq_ok_iff, Report.ofFile]
  cases read inv.log with
  | error cause => simp
  | ok log => simp [mapError_eq_ok_iff]

/-- What is known when writing begins: the options, the report on the log, the verdict on the log as
a trial output, and the verdict on the transcript. -/
theorem prepare_eq_ok_iff {p : Prepared} :
    (inv.prepare read).result = .ok p ↔
      inv.options read = .ok p.options ∧
        (∃ log, read inv.log = .ok log ∧
          Report.ofLog p.options.cores p.options.skipBlank log = .ok p.report ∧
          p.trial? = inv.successMarker?.map (Trial.ofOutput log)) ∧
        (inv.debugger read).result = .ok p.debugger? := by
  rw [prepare]
  simp only [Told.result_bind_eq_ok_iff, Told.result_ofExcept, Told.result_pure, report_eq_ok_iff]
  constructor
  · rintro ⟨options, hoptions, trial?, htrial, debugger?, hdebugger, report,
      ⟨log, hlog, hreport⟩, h⟩
    cases h
    exact ⟨hoptions, ⟨log, hlog, hreport, (trial_eq_ok_iff hlog).1 htrial⟩, hdebugger⟩
  · rintro ⟨hoptions, ⟨log, hlog, hreport, htrial⟩, hdebugger⟩
    exact ⟨p.options, hoptions, p.trial?, (trial_eq_ok_iff hlog).2 htrial, p.debugger?, hdebugger,
      p.report, ⟨log, hlog, hreport⟩, rfl⟩

/-! ## What hinders -/

/-- What keeps an invocation from writing anything. -/
inductive Hindered (inv : Invocation) (read : FileReader) : Prop
  /-- The configuration cannot be read. -/
  | config {path : Text} {cause : FileFault} (named : inv.config? = some path)
      (unread : read path = .error cause) : Hindered inv read
  /-- The configuration gives no options. -/
  | refused {path text : Text} {cause : OptionsFault} (named : inv.config? = some path)
      (content : read path = .ok text) (bad : Options.ofToml text = .error cause) :
      Hindered inv read
  /-- The arguments set the number of cores to 0. -/
  | noCores (zero : inv.cores? = some 0) : Hindered inv read
  /-- The log cannot be read. -/
  | log {cause : FileFault} (unread : read inv.log = .error cause) : Hindered inv read
  /-- The transcript cannot be read. -/
  | transcript {path : Text} {cause : FileFault} (named : inv.transcript? = some path)
      (unread : read path = .error cause) : Hindered inv read
  /-- A line of the log is faulty, wherever it stands. -/
  | line {options : Options} {log : Text} {k : Nat} {fault : LogFault}
      (known : inv.options read = .ok options) (content : read inv.log = .ok log)
      (faulty : Recording.FaultAt options.cores options.skipBlank (Text.lines log) k fault) :
      Hindered inv read

/-- Writing begins exactly if nothing hinders it. -/
theorem exists_prepare_eq_ok_iff :
    (∃ p, (inv.prepare read).result = .ok p) ↔ ¬inv.Hindered read := by
  simp only [prepare_eq_ok_iff]
  constructor
  · rintro ⟨p, hoptions, ⟨log, hlog, hreport, -⟩, hdebugger⟩ hhindered
    obtain ⟨hconfig, hcores⟩ := exists_options_eq_ok_iff.1 ⟨_, hoptions⟩
    have htranscript := exists_debugger_eq_ok_iff.1 ⟨_, hdebugger⟩
    have hfaultless := Recording.exists_ofLog_eq_ok_iff.1 ⟨_, hreport⟩
    cases hhindered with
    | config named unread =>
      obtain ⟨text, base, hread, -⟩ := hconfig _ named
      cases hread.symm.trans unread
    | refused named content bad =>
      obtain ⟨text, base, hread, htoml⟩ := hconfig _ named
      cases hread.symm.trans content
      cases htoml.symm.trans bad
    | noCores zero => exact hcores zero
    | log unread => cases hlog.symm.trans unread
    | transcript named unread =>
      obtain ⟨transcript, hread⟩ := htranscript _ named
      cases hread.symm.trans unread
    | line known content faulty =>
      cases hoptions.symm.trans known
      cases hlog.symm.trans content
      exact hfaultless _ _ faulty
  · intro hfree
    obtain ⟨log, hlog⟩ := exists_eq_ok_iff.2 fun _ unread => hfree (.log unread)
    have hconfig : ∀ path ∈ inv.config?,
        ∃ text base, read path = .ok text ∧ Options.ofToml text = .ok base := by
      intro path named
      obtain ⟨text, hread⟩ := exists_eq_ok_iff.2 fun _ unread => hfree (.config named unread)
      obtain ⟨base, htoml⟩ := exists_eq_ok_iff.2 fun _ bad => hfree (.refused named hread bad)
      exact ⟨text, base, hread, htoml⟩
    obtain ⟨options, hoptions⟩ :=
      exists_options_eq_ok_iff.2 ⟨hconfig, fun zero => hfree (.noCores zero)⟩
    obtain ⟨debugger?, hdebugger⟩ := exists_debugger_eq_ok_iff.2 fun _ named =>
      exists_eq_ok_iff.2 fun _ unread => hfree (.transcript named unread)
    obtain ⟨report, hreport⟩ := Recording.exists_ofLog_eq_ok_iff.2 fun _ _ faulty =>
      hfree (.line hoptions hlog faulty)
    exact ⟨⟨options, report, inv.successMarker?.map (Trial.ofOutput log), debugger?⟩, hoptions,
      ⟨log, hlog, hreport, rfl⟩, hdebugger⟩

/-- No fault up to here is one of writing. -/
theorem prepare_ne_unwritten (inv : Invocation) (read : FileReader) (directory : Text)
    (cause : FileFault) : (inv.prepare read).result ≠ .error (.unwritten directory cause) := by
  intro h
  rw [prepare] at h
  simp only [Told.result_bind_eq_error_iff, Told.result_ofExcept, Told.result_pure] at h
  rcases h with h | ⟨options, -, h | ⟨trial?, -, h | ⟨debugger?, -, h | ⟨report, -, h⟩⟩⟩⟩
  · exact options_ne_unwritten h
  · rw [trial] at h
    split at h
    · cases h
    · split at h <;> cases h
  · rw [debugger] at h
    split at h
    · cases h
    · split at h <;> cases h
  · obtain ⟨fault, -, hfault⟩ := mapError_eq_error_iff.1 h
    cases hfault
  · cases h

end Invocation

end HartTimeline
