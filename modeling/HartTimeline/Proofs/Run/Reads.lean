import HartTimeline.Proofs.Run.After

/-!
# What a run holds

After any lines a run holds what the recording says of them: the open snapshot, the latest snapshot
of every core and the entries of the timeline are functions of the lines alone, whether or not some
of the lines were rejected.

Main statements: `Reads.step`, from one line to the next, and `Reads.after`, after any number of
lines.
-/

namespace HartTimeline

namespace Recording

/-- The snapshot that is open before line `k`. -/
def snapshot (log : Recording) (k : Nat) : Snapshot :=
  Assoc.ofList (log.gathered k)

/-- The block of a core that is due when line `k` closes its snapshot. -/
def block (log : Recording) (core k : Nat) : Block :=
  Block.between core ((log.previous? k core).map log.snapshot) (log.snapshot k)

/-- The entry that line `k` adds to the timeline of a number of cores. -/
def entryAt? (log : Recording) (cores k : Nat) : Option Entry :=
  log[k]?.bind fun text =>
    if Line.isTrace text then
      match traceCore text with
      | .error _ => none
      | .ok core => if core < cores then some (.trace text core.toNat?) else none
    else if log.closes k then
      ((log.core? k).bind Int.toNat?).bind fun core =>
        if core < cores then some (.block (log.block core k)) else none
    else none

/-- Whether line `k` closes a snapshot of a tracked core or of no core. -/
def attributes (log : Recording) (cores k : Nat) : Bool :=
  log.closes k && (log.core? k).any fun core : Int => core < cores

/-- Whether line `k` closes a snapshot of no core. -/
def drops (log : Recording) (k : Nat) : Bool :=
  log.closes k && (log.core? k).any fun core => core < 0

/-! ## Lines that close nothing -/

variable {log : Recording} {k : Nat} {text : Text}

theorem closes_eq_false_of_registers (h : log[k]? = some text) (hr : registers text = []) :
    log.closes k = false := by
  cases hc : isCounterLine text with
  | true => exact absurd hr (registers_ne_nil_of_isCounterLine hc)
  | false => simp [closes_eq h, hc]

theorem registers_ne_nil_of_closes (h : log[k]? = some text) (hc : log.closes k = true) :
    registers text ≠ [] := by
  rw [closes_eq h, Bool.and_eq_true] at hc
  exact registers_ne_nil_of_isCounterLine hc.1

theorem isTrace_of_closes (h : log[k]? = some text) (hc : log.closes k = true) :
    Line.isTrace text = false :=
  (registers_ne_nil_iff.1 (registers_ne_nil_of_closes h hc)).1

theorem previous?_succ (log : Recording) (k : Nat) (core : Int) :
    log.previous? (k + 1) core = if log.closesFor core k then some k else log.previous? k core :=
  latestBefore_succ _ _

theorem snapshot_succ_of_closes (h : log[k]? = some text) (hc : log.closes k = true) :
    log.snapshot (k + 1) = Assoc.ofList (registers text) := by
  unfold snapshot
  rw [gathered_succ_of_closes h hc]

theorem snapshot_succ_of_not_closes (h : log[k]? = some text) (hc : log.closes k = false) :
    log.snapshot (k + 1) = (log.snapshot k).insertAll (registers text) := by
  rw [snapshot, gathered_succ_of_not_closes h hc, Assoc.ofList_append, ← snapshot]

/-! ## Entries -/

theorem entryAt?_of_not_closes {cores : Nat} (h : log[k]? = some text)
    (ht : Line.isTrace text = false) (hc : log.closes k = false) : log.entryAt? cores k = none := by
  simp [entryAt?, h, ht, hc]

theorem entryAt?_of_closes {cores : Nat} (h : log[k]? = some text) (hc : log.closes k = true) :
    log.entryAt? cores k = ((log.core? k).bind Int.toNat?).bind fun core =>
      if core < cores then some (.block (log.block core k)) else none := by
  simp [entryAt?, h, isTrace_of_closes h hc, hc]

/-- An entry is a trace line on its way to the core that its hart token names, or the block of a
tracked core. -/
theorem entryAt?_cases {cores : Nat} {entry : Entry} (h : log.entryAt? cores k = some entry) :
    (∃ text core, log[k]? = some text ∧ Line.isTrace text = true ∧ traceCore text = .ok core ∧
      core < cores ∧ entry = .trace text core.toNat?) ∨
    ∃ core, log.closes k = true ∧ core < cores ∧ entry = .block (log.block core k) := by
  obtain ⟨text, ht, h⟩ := Option.bind_eq_some_iff.1 h
  cases htrace : Line.isTrace text with
  | true =>
    rw [htrace, if_pos rfl] at h
    cases htoken : traceCore text with
    | error reason =>
      rw [htoken] at h
      cases h
    | ok core =>
      simp only [htoken] at h
      split at h
      · cases h
        exact Or.inl ⟨text, core, ht, htrace, htoken, ‹_›, rfl⟩
      · cases h
  | false =>
    rw [htrace, if_neg (by decide)] at h
    split at h
    · obtain ⟨core, -, h⟩ := Option.bind_eq_some_iff.1 h
      split at h
      · cases h
        exact Or.inr ⟨core, ‹_›, ‹_›, rfl⟩
      · cases h
    · cases h

/-! ## The core of a snapshot -/

/-- The core of an open snapshot, or why it has none. -/
theorem core_snapshot (log : Recording) (k : Nat) :
    (log.snapshot k).core =
      match Assoc.lastValue? (log.gathered k) hartRegister with
      | none => .error .missingHart
      | some value =>
        match Text.signed64? value with
        | none => .error (.notNumeric value)
        | some hart =>
          if hart = Text.int64Min then .error (.noCore value) else .ok (hart - 1) := by
  unfold Snapshot.core
  rw [snapshot, Assoc.get?_ofList]
  cases Assoc.lastValue? (log.gathered k) hartRegister with
  | none => rfl
  | some value =>
    simp only [hartCore]
    cases Text.signed64? value with
    | none => rfl
    | some hart =>
      by_cases h : hart = Text.int64Min <;> simp [h, Except.mapError, AttributionFault.ofNumber]

/-- An open snapshot has a core exactly if its last hart number names one. -/
theorem core_snapshot_eq_ok_iff {core : Int} :
    (log.snapshot k).core = .ok core ↔ log.core? k = some core := by
  rw [core_snapshot, core?]
  cases Assoc.lastValue? (log.gathered k) hartRegister with
  | none => simp
  | some value =>
    simp only [Option.bind_some]
    cases Text.signed64? value with
    | none => simp
    | some hart => by_cases h : hart = Text.int64Min <;> simp [h]

theorem core?_eq_none_of_error {reason : AttributionFault}
    (h : (log.snapshot k).core = .error reason) : log.core? k = none := by
  cases hc : log.core? k with
  | none => rfl
  | some core =>
    rw [core_snapshot_eq_ok_iff.2 hc] at h
    cases h

end Recording

/-! ## The invariant -/

open Recording (registers)

/-- A run has read the first `k` lines of a recording: what it holds is what they say. -/
structure Reads (cores : Nat) (log : Recording) (k : Nat) (r : Run) : Prop where
  tracked : r.cores = cores
  assembly : r.assembly.snapshot = log.snapshot k
  baselines : ∀ core < cores, r.baselines.get? core = (log.previous? k core).map log.snapshot
  entries : r.timeline.entries.toList = (List.range k).filterMap (log.entryAt? cores)
  closed : r.tally.closedSnapshots = (List.range k).countP (log.attributes cores)
  dropped : r.tally.droppedSnapshots = (List.range k).countP log.drops

namespace Reads

variable {cores k : Nat} {log : Recording} {r r' : Run} {text : Text}

/-- Nothing has been read at the start. -/
theorem start (cores : Nat) (skipBlank : Bool) (log : Recording) :
    Reads cores log 0 (Run.start cores skipBlank) where
  tracked := Baselines.cores_initial cores
  assembly := by simp [Run.start, Assembly.idle, Assembly.snapshot, Recording.snapshot,
    Assoc.ofList]
  baselines := by
    intro core _
    simp [Run.start, Recording.previous?]
  entries := by simp [Run.start, Timeline.empty]
  closed := rfl
  dropped := rfl

/-- The open snapshot holds the program counter as soon as any line has given it. -/
theorem contains_counter (h : Reads cores log k r) (hk : k ≤ log.length) :
    r.assembly.snapshot.contains counterRegister =
      (log.take k).any Recording.givesCounter := by
  rw [Bool.eq_iff_iff, ← Recording.counter_mem_gathered_iff hk, h.assembly, Recording.snapshot,
    Assoc.contains, Assoc.get?_ofList]
  exact Assoc.isSome_lastValue?

/-- The run closes its snapshot at the lines at which the recording closes one. -/
theorem closedBy_eq (h : Reads cores log k r) (ht : log[k]? = some text) :
    r.closedBy text = log.closes k := by
  have hk : k ≤ log.length := Nat.le_of_lt (List.getElem?_eq_some_iff.1 ht).1
  rw [Run.closedBy, h.contains_counter hk, Recording.closes_eq ht]

/-- One more line, when it changes what the run holds as the recording says. -/
theorem succ (h : Reads cores log k r) (hcores : r'.cores = r.cores)
    (hassembly : r'.assembly.snapshot = log.snapshot (k + 1))
    (hbaselines : ∀ core < cores, r'.baselines.get? core =
      if log.closesFor core k then some (log.snapshot k) else r.baselines.get? core)
    (hentries : r'.timeline.entries.toList =
      r.timeline.entries.toList ++ (log.entryAt? cores k).toList)
    (hclosed : r'.tally.closedSnapshots =
      r.tally.closedSnapshots + (log.attributes cores k).toNat)
    (hdropped : r'.tally.droppedSnapshots = r.tally.droppedSnapshots + (log.drops k).toNat) :
    Reads cores log (k + 1) r' where
  tracked := hcores.trans h.tracked
  assembly := hassembly
  baselines := by
    intro core hcore
    rw [hbaselines core hcore, Recording.previous?_succ, h.baselines core hcore]
    cases log.closesFor core k <;> rfl
  entries := by
    rw [hentries, h.entries, List.range_succ, List.filterMap_append]
    cases he : log.entryAt? cores k <;> simp [he]
  closed := by
    rw [hclosed, h.closed, List.range_succ, List.countP_append]
    cases ha : log.attributes cores k <;> simp [ha]
  dropped := by
    rw [hdropped, h.dropped, List.range_succ, List.countP_append]
    cases hd : log.drops k <;> simp [hd]

/-- A line that closes nothing leaves the baselines and the counters of snapshots as they are. -/
theorem succ_of_not_closes (h : Reads cores log k r) (ht : log[k]? = some text)
    (hc : log.closes k = false) (hcores : r'.cores = r.cores)
    (hassembly : r'.assembly.snapshot = r.assembly.snapshot.insertAll (registers text))
    (hbaselines : r'.baselines = r.baselines)
    (hentries : r'.timeline.entries.toList =
      r.timeline.entries.toList ++ (log.entryAt? cores k).toList)
    (hclosed : r'.tally.closedSnapshots = r.tally.closedSnapshots)
    (hdropped : r'.tally.droppedSnapshots = r.tally.droppedSnapshots) :
    Reads cores log (k + 1) r' := by
  refine h.succ hcores ?_ ?_ hentries ?_ ?_
  · rw [hassembly, h.assembly, Recording.snapshot_succ_of_not_closes ht hc]
  · intro core _
    rw [hbaselines, if_neg (by simp [Recording.closesFor, hc])]
  · simp [hclosed, Recording.attributes, hc]
  · simp [hdropped, Recording.drops, hc]

/-- A line without registers leaves the open snapshot as it is, too. -/
theorem succ_of_registers (h : Reads cores log k r) (ht : log[k]? = some text)
    (hr : registers text = []) (hcores : r'.cores = r.cores)
    (hassembly : r'.assembly = r.assembly) (hbaselines : r'.baselines = r.baselines)
    (hentries : r'.timeline.entries.toList =
      r.timeline.entries.toList ++ (log.entryAt? cores k).toList)
    (hclosed : r'.tally.closedSnapshots = r.tally.closedSnapshots)
    (hdropped : r'.tally.droppedSnapshots = r.tally.droppedSnapshots) :
    Reads cores log (k + 1) r' := by
  refine h.succ_of_not_closes ht (Recording.closes_eq_false_of_registers ht hr) hcores ?_
    hbaselines hentries hclosed hdropped
  rw [hassembly, hr, Assoc.insertAll_nil]

/-- A line that closes a snapshot of no core that is known begins the next snapshot and does nothing
else. -/
theorem succ_of_unattributed (h : Reads cores log k r) (ht : log[k]? = some text)
    (hc : log.closes k = true) (hcore : ∀ core, log.core? k = some core → cores ≤ core) :
    Reads cores log (k + 1) (r.reopen text) := by
  have hassembly := (Recording.snapshot_succ_of_closes ht hc).symm
  have hentry : log.entryAt? cores k = none := by
    rw [Recording.entryAt?_of_closes ht hc]
    cases hattributed : log.core? k with
    | none => rfl
    | some core =>
      have hrange := hcore core hattributed
      -- a core that is not below the number of cores is not negative either
      obtain ⟨n, rfl⟩ := Int.eq_ofNat_of_zero_le (Int.le_trans (Int.natCast_nonneg cores) hrange)
      simp only [Option.bind_some, Int.toNat?]
      exact if_neg (by omega)
  refine h.succ rfl hassembly ?_ ?_ ?_ ?_
  · intro core hlt
    have hfor : log.closesFor core k = false := by
      simp only [Recording.closesFor, hc, Bool.true_and, decide_eq_false_iff_not]
      intro hattributed
      have hrange := hcore core hattributed
      omega
    rw [hfor, if_neg (by decide)]
    rfl
  · simp [Run.reopen, hentry]
  · cases hattributed : log.core? k with
    | none => simp [Recording.attributes, hattributed]
    | some core =>
      have hrange := hcore core hattributed
      simp [Recording.attributes, hattributed, Int.not_lt.2 hrange]
  · cases hattributed : log.core? k with
    | none => simp [Recording.drops, hattributed]
    | some core =>
      have hnonneg : ¬core < 0 := by
        have hrange := hcore core hattributed
        omega
      simp [Recording.drops, hattributed, hnonneg]

/-- One line after the other, a run holds what the recording says. -/
theorem step (h : Reads cores log k r) (ht : log[k]? = some text) (index : Nat) :
    Reads cores log (k + 1) (r.step index text).1 := by
  have hspec := r.step_spec index text
  have hclosedBy := h.closedBy_eq ht
  generalize r.step index text = out at hspec
  cases hspec with
  | badToken trace token =>
    exact h.succ_of_registers ht (Recording.registers_of_isTrace trace) rfl rfl rfl
      (by simp [Run.countLine, Recording.entryAt?, ht, trace, token]) rfl rfl
  | traceOutOfRange trace token range =>
    rw [h.tracked] at range
    have hentry : log.entryAt? cores k = none := by
      simp [Recording.entryAt?, ht, trace, token, Int.not_lt.2 range]
    exact h.succ_of_registers ht (Recording.registers_of_isTrace trace) rfl rfl rfl
      (by simp [Run.countLine, hentry]) rfl rfl
  | @copied core trace token range =>
    rw [h.tracked] at range
    have hentry : log.entryAt? cores k = some (.trace text core.toNat?) := by
      simp [Recording.entryAt?, ht, trace, token, range]
    refine h.succ_of_registers ht (Recording.registers_of_isTrace trace) rfl rfl rfl ?_ ?_ ?_
    · rw [hentry, Timeline.toList_push, Option.toList_some]
    · exact Tally.closedSnapshots_countTrace _ _
    · exact Tally.droppedSnapshots_countTrace _ _
  | malformed plain words =>
    have hr := Recording.registers_of_malformed words
    have hc := Recording.closes_eq_false_of_registers ht hr
    exact h.succ_of_registers ht hr rfl rfl rfl
      (by simp [Run.countLine, Recording.entryAt?_of_not_closes ht plain hc]) rfl rfl
  | blank plain words skip =>
    have hr := Recording.registers_of_blank words
    have hc := Recording.closes_eq_false_of_registers ht hr
    exact h.succ_of_registers ht hr rfl rfl rfl
      (by simp [Recording.entryAt?_of_not_closes ht plain hc]) rfl rfl
  | gathered some open_ =>
    rw [hclosedBy] at open_
    have hplain := (Recording.registers_ne_nil_iff.1 some).1
    exact h.succ_of_not_closes ht open_ rfl rfl rfl
      (by simp [Run.gather, Recording.entryAt?_of_not_closes ht hplain open_]) rfl rfl
  | unattributed closed hart =>
    rw [hclosedBy] at closed
    rw [h.assembly] at hart
    have hnone := Recording.core?_eq_none_of_error hart
    exact h.succ_of_unattributed ht closed fun core hcore => by simp [hnone] at hcore
  | snapshotOutOfRange closed hart range =>
    rw [hclosedBy] at closed
    rw [h.assembly, Recording.core_snapshot_eq_ok_iff] at hart
    rw [h.tracked] at range
    refine h.succ_of_unattributed ht closed fun core hcore => ?_
    cases hart.symm.trans hcore
    exact range
  | @dropped core closed hart range =>
    rw [hclosedBy] at closed
    rw [h.assembly, Recording.core_snapshot_eq_ok_iff] at hart
    have hlt : core < cores := by omega
    refine h.succ rfl (Recording.snapshot_succ_of_closes ht closed).symm ?_ ?_ ?_ ?_
    · intro core' _
      have hne : core ≠ core' := by omega
      simp [Run.reopen, Recording.closesFor, hart, hne]
    · have hentry : log.entryAt? cores k = none := by
        obtain ⟨n, rfl⟩ := Int.eq_negSucc_of_lt_zero range
        simp [Recording.entryAt?_of_closes ht closed, hart, Int.toNat?]
      simp [Run.reopen, hentry]
    · simp [Recording.attributes, hart, closed, hlt]
    · simp [Recording.drops, hart, closed, range]
  | @rendered core block closed hart range diff =>
    rw [hclosedBy] at closed
    rw [h.assembly] at diff hart
    rw [Recording.core_snapshot_eq_ok_iff] at hart
    have hlt : core < cores := h.tracked ▸ range
    -- the run compares with the snapshot that the recording names
    have hblock : block = log.block core k := by
      rw [diff, h.baselines core hlt, Recording.block]
    refine h.succ ?_ (Recording.snapshot_succ_of_closes ht closed).symm ?_ ?_ ?_ ?_
    · exact Baselines.cores_set _ _ _
    · intro core' _
      rw [Baselines.get?_set range, h.assembly]
      by_cases he : core = core'
      · subst he
        simp [Recording.closesFor, hart, closed]
      · have hne : (core : Int) ≠ core' := by omega
        simp [Recording.closesFor, hart, he, hne]
    · have hentry : log.entryAt? cores k = some (.block block) := by
        simp [Recording.entryAt?_of_closes ht closed, hart, Int.toNat?, hlt, hblock]
      rw [hentry, Timeline.toList_push, Option.toList_some]
    · simp [Recording.attributes, hart, closed, hlt]
    · simp [Recording.drops, hart]

/-- After any lines, accepted or not, a run holds what the recording of them says. -/
theorem after (cores : Nat) (skipBlank : Bool) (lines : List (Text × Nat)) :
    ∀ k ≤ lines.length,
      Reads cores (lines.map Prod.fst) k ((Run.start cores skipBlank).after (lines.take k)) := by
  intro k
  induction k with
  | zero => exact fun _ => start cores skipBlank _
  | succ k ih =>
    intro hk
    have hline : lines[k]? = some lines[k] := List.getElem?_eq_getElem hk
    have htext : (lines.map Prod.fst)[k]? = some lines[k].1 := by
      rw [List.getElem?_map, hline, Option.map_some]
    rw [List.take_add_one, hline, Option.toList_some, Run.after_concat]
    exact (ih (by omega)).step htext _

end Reads

end HartTimeline
