import HartTimeline.Proofs.Recording.Faults

/-!
# The streams of a recording

What the sanitized streams hold is said here of the lines of a log, by positions and without a
state: every trace line stands as it is, and every line that closes a snapshot of a core gives a
block with what changed since the snapshot that was closed for the same core before.

Main statement: `streams_of_recording`, reading a log line by line gives exactly these streams.
-/

namespace HartTimeline

namespace Recording

/-! ## Texts by position -/

/-- The line of a block for one register: its value alone if it had none before, both values if
they differ, and nothing if they do not. -/
def changeText (name : Text) (old? : Option Text) (value : Text) : Text :=
  match old? with
  | none => name ++ Text.of " = " ++ value ++ ['\n']
  | some old =>
    if old = value then []
    else name ++ Text.of " = " ++ old ++ Text.of " -> " ++ value ++ ['\n']

/-- The registers of the snapshot that was last closed for a core before line `k`. -/
def gatheredBefore (log : Recording) (k : Nat) (core : Int) : List Register :=
  (log.previous? k core).elim [] log.gathered

/-- The block of a core that is due when line `k` closes its snapshot, as text. -/
def blockText (log : Recording) (core k : Nat) : Text :=
  Text.of "Core " ++ Text.decimal core ++ Text.of ":\n"
    ++ (Assoc.collected (log.gathered k)).flatMap (fun e =>
      changeText e.1 (Assoc.lastValue? (log.gatheredBefore k core) e.1) e.2)
    ++ ['\n']

/-- What line `k` adds to the stream of all entries. -/
def lineText (log : Recording) (k : Nat) : Text :=
  log[k]?.elim [] fun text =>
    if Line.isTrace text then text ++ ['\n', '\n']
    else if log.closes k then
      ((log.core? k).bind Int.toNat?).elim [] fun core => log.blockText core k
    else []

/-- Whether what line `k` adds belongs to a core. -/
def concerns (log : Recording) (core k : Nat) : Bool :=
  log[k]?.any (fun text =>
    Line.isTrace text && (traceCore text).toOption = some (core : Int)) || log.closesFor core k

/-- The stream of all entries. -/
def globalText (log : Recording) : Text :=
  (List.range log.length).flatMap log.lineText

/-- The stream of a core. -/
def coreText (log : Recording) (core : Nat) : Text :=
  ((List.range log.length).filter (log.concerns core)).flatMap log.lineText

/-! ## Blocks -/

/-- A change stands in its block as the line for its register. -/
theorem render_of? (previous : Snapshot) (name value : Text) :
    (Change.of? previous name value).elim [] Change.render =
      changeText name (previous.get? name) value := by
  rw [Change.of?]
  cases previous.get? name with
  | none => rfl
  | some old => by_cases h : old = value <;> simp [changeText, h, Change.render]

/-- The snapshot that was closed before, as the registers it was made of. -/
theorem get?_previous (log : Recording) (k core : Nat) (name : Text) :
    (((log.previous? k core).map log.snapshot).getD Assoc.empty).get? name =
      Assoc.lastValue? (log.gatheredBefore k core) name := by
  rw [gatheredBefore]
  cases log.previous? k core with
  | none => rfl
  | some j => exact Assoc.get?_ofList _ _

theorem flatMap_filterMap {α β γ : Type} (f : α → Option β) (g : β → List γ) (l : List α) :
    (l.filterMap f).flatMap g = l.flatMap fun a => (f a).elim [] g := by
  induction l with
  | nil => rfl
  | cons a l ih => cases h : f a <;> simp [h, ih]

/-- The text of a block follows from the registers of the two snapshots. -/
theorem render_block (log : Recording) (core k : Nat) :
    (log.block core k).render = log.blockText core k := by
  -- both go through the registers of the snapshot in order of first appearance
  have hentries : (log.snapshot k).entries = Assoc.collected (log.gathered k) :=
    Assoc.entries_ofList _
  rw [Block.render, Block.header, block, Block.between, blockText, flatMap_filterMap, hentries]
  simp only [render_of?, get?_previous]

/-! ## Entries -/

variable {cores k : Nat} {skipBlank : Bool} {log : Recording} {text : Text}

/-- The hart number of a trace line without fault names a tracked core or none. -/
theorem exists_core_of_isTrace (hok : ∀ f, ¬FaultAt cores skipBlank log k f)
    (ht : log[k]? = some text) (htrace : Line.isTrace text = true) :
    ∃ core : Int, traceCore text = .ok core ∧ core < cores := by
  cases hc : traceCore text with
  | error reason => exact absurd (.token ht htrace hc) (hok _)
  | ok core =>
    refine ⟨core, rfl, ?_⟩
    by_contra hrange
    exact hok _ (.traceRange ht htrace hc (Int.not_lt.1 hrange))

/-- So does the hart number of a snapshot that is closed without fault. -/
theorem exists_core_of_closes (hok : ∀ f, ¬FaultAt cores skipBlank log k f)
    (ht : log[k]? = some text) (hc : log.closes k = true) :
    ∃ core : Int, log.core? k = some core ∧ core < cores := by
  simp only [faultAt_iff_of_closes ht hc] at hok
  cases hs : (log.snapshot k).core with
  | error reason =>
    simp only [hs] at hok
    exact absurd rfl (hok _)
  | ok core =>
    simp only [hs] at hok
    refine ⟨core, core_snapshot_eq_ok_iff.1 hs, ?_⟩
    by_contra hrange
    exact hok _ ⟨Int.not_lt.1 hrange, rfl⟩

/-- The entry of a line without fault stands in the stream as the text for that line. -/
theorem render_entryAt? (hok : ∀ f, ¬FaultAt cores skipBlank log k f) :
    (log.entryAt? cores k).elim [] Entry.render = log.lineText k := by
  cases ht : log[k]? with
  | none => simp [entryAt?, lineText, ht]
  | some text =>
    cases htrace : Line.isTrace text with
    | true =>
      obtain ⟨core, hcore, hlt⟩ := exists_core_of_isTrace hok ht htrace
      simp [entryAt?, lineText, ht, htrace, hcore, hlt, Entry.render]
    | false =>
      cases hc : log.closes k with
      | false => simp [entryAt?, lineText, ht, htrace, hc]
      | true =>
        obtain ⟨core, hcore, hlt⟩ := exists_core_of_closes hok ht hc
        rw [entryAt?_of_closes ht hc]
        cases hn : core.toNat? with
        | none => simp [lineText, ht, htrace, hc, hcore, hn]
        | some n =>
          have hn' : core = n := Int.mem_toNat?.1 hn
          have hlt' : n < cores := by omega
          simp [lineText, ht, htrace, hc, hcore, hn, hlt', Entry.render, render_block]

/-- The entry of a line without fault belongs to a core exactly if the line concerns it. -/
theorem core?_entryAt?_iff (hok : ∀ f, ¬FaultAt cores skipBlank log k f) (core : Nat) :
    (log.entryAt? cores k).bind Entry.core? = some core ↔ log.concerns core k = true := by
  cases ht : log[k]? with
  | none => simp [entryAt?, concerns, closesFor, closes, ht]
  | some text =>
    cases htrace : Line.isTrace text with
    | true =>
      obtain ⟨core', hcore, hlt⟩ := exists_core_of_isTrace hok ht htrace
      have hc : log.closes k = false :=
        closes_eq_false_of_registers ht (registers_of_isTrace htrace)
      simp [entryAt?, concerns, closesFor, ht, htrace, hcore, hlt, hc, Entry.core?,
        Int.mem_toNat?, Except.toOption]
    | false =>
      cases hc : log.closes k with
      | false => simp [entryAt?, concerns, closesFor, ht, htrace, hc]
      | true =>
        obtain ⟨core', hcore, hlt⟩ := exists_core_of_closes hok ht hc
        have hconcerns : log.concerns core k = decide (core' = core) := by
          simp [concerns, closesFor, ht, htrace, hc, hcore]
        rw [entryAt?_of_closes ht hc, hconcerns, decide_eq_true_iff, ← Int.mem_toNat?, hcore]
        cases hn : core'.toNat? with
        | none => simp [hn]
        | some n =>
          have hn' : core' = n := Int.mem_toNat?.1 hn
          have hlt' : n < cores := by omega
          simp [hn, hlt', Entry.core?, block, Block.between]

/-! ## Streams -/

theorem filter_filterMap {α β : Type} (f : α → Option β) (p : β → Bool) (l : List α) :
    (l.filterMap f).filter p = (l.filter fun a => (f a).any p).filterMap f := by
  induction l with
  | nil => rfl
  | cons a l ih =>
    cases h : f a with
    | none => simp [h, ih]
    | some b => cases hp : p b <;> simp [h, hp, ih]

/-- Entries in order, as text. -/
theorem render_entries (hok : ∀ k f, ¬FaultAt cores skipBlank log k f) (ks : List Nat) :
    Timeline.render (ks.filterMap (log.entryAt? cores)) = ks.flatMap log.lineText := by
  unfold Timeline.render
  rw [flatMap_filterMap]
  exact List.flatMap_congr fun k _ => render_entryAt? (hok k)

theorem filter_entries (hok : ∀ k f, ¬FaultAt cores skipBlank log k f) (core : Nat)
    (ks : List Nat) :
    (ks.filterMap (log.entryAt? cores)).filter (fun e => e.core? = some core) =
      (ks.filter (log.concerns core)).filterMap (log.entryAt? cores) := by
  rw [filter_filterMap]
  congr 1
  refine List.filter_congr fun k _ => ?_
  rw [Bool.eq_iff_iff, ← core?_entryAt?_iff (hok k)]
  cases log.entryAt? cores k <;> simp

/-- The lines that close a snapshot without fault give it to a core or drop it. -/
theorem attributes_eq_closes (hok : ∀ f, ¬FaultAt cores skipBlank log k f) :
    log.attributes cores k = log.closes k := by
  rw [attributes]
  cases hc : log.closes k with
  | false => rfl
  | true =>
    have hk := lt_length_of_closes hc
    obtain ⟨core, hcore, hlt⟩ := exists_core_of_closes hok (List.getElem?_eq_getElem hk) hc
    simp [hcore, hlt]

/-- A log that is read to its end has no faulty line, and its report is what the run holds then. -/
theorem exists_run_of_ofLog {cores : Nat} {skipBlank : Bool} {log : Text} {report : Report}
    (h : Report.ofLog cores skipBlank log = .ok report) :
    (∀ k f, ¬FaultAt cores skipBlank (Text.lines log) k f) ∧
      ∃ r : Run, Reads cores (Text.lines log) (Text.lines log).length r ∧
        r.timeline.cores = cores ∧ report = r.report := by
  obtain ⟨haccepts, rfl⟩ := Run.ofLog_eq_ok_iff.1 h
  have hfst : (Text.lines log).zipIdx.map Prod.fst = Text.lines log := List.zipIdx_map_fst 0 _
  have hreads := Reads.after cores skipBlank (Text.lines log).zipIdx
    (Text.lines log).zipIdx.length (Nat.le_refl _)
  rw [List.take_length, hfst, List.length_zipIdx] at hreads
  exact ⟨accepts_iff_forall_not_faultAt.1 haccepts, _, hreads, (Run.after_fixed _ _).2.2, rfl⟩

/-- Reading a log line by line writes what its recording says: the stream of all entries, the stream
of every core, and how many snapshots were closed, closed for no core and left open. -/
theorem streams_of_recording (cores : Nat) (skipBlank : Bool) (log : Text) (report : Report)
    (h : Report.ofLog cores skipBlank log = .ok report) :
    report.timeline.globalStream = globalText (Text.lines log) ∧
    (∀ core < cores, report.timeline.coreStream? core = some (coreText (Text.lines log) core)) ∧
    report.tally.closedSnapshots =
      (List.range (Text.lines log).length).countP (closes (Text.lines log)) ∧
    report.tally.droppedSnapshots =
      (List.range (Text.lines log).length).countP (drops (Text.lines log)) ∧
    report.tally.discardedRegisters =
      (Assoc.firstKeys (gathered (Text.lines log) (Text.lines log).length)).length := by
  obtain ⟨hok, r, hreads, hcores, rfl⟩ := exists_run_of_ofLog h
  have hclosed := hreads.closed
  rw [List.countP_congr fun k _ => by rw [attributes_eq_closes (hok k)]] at hclosed
  refine ⟨?_, ?_, hclosed, hreads.dropped, ?_⟩
  · show Timeline.render r.timeline.entries.toList = _
    rw [hreads.entries, render_entries hok, globalText]
  · intro core hcore
    have htracked : core < r.timeline.cores := hcores.symm ▸ hcore
    show r.timeline.coreStream? core = _
    rw [Timeline.coreStream?, if_pos htracked, Timeline.coreStream, hreads.entries,
      filter_entries hok, render_entries hok, coreText]
  · show r.assembly.snapshot.size = _
    rw [hreads.assembly, snapshot, Assoc.size, ← Assoc.keys_ofList, List.length_map]

/-- A log with two snapshots of the first core and a trace line of the second. -/
def twoSnapshots : Text :=
  Text.of ("mhartid 1\npc 10\nsp 5\nriscv: hart:2, nop\npc 14\nmhartid 1 sp 6\npc 18\n")

/-- Its streams: the second block of the core shows what changed. -/
theorem streams_of_twoSnapshots :
    ∃ report, Report.ofLog 2 false twoSnapshots = .ok report ∧
      report.timeline.globalStream =
        Text.of ("riscv: hart:2, nop\n\nCore 0:\nmhartid = 1\npc = 10\nsp = 5\n\n" ++
          "Core 0:\npc = 10 -> 14\nsp = 5 -> 6\n\n") ∧
      report.timeline.coreStream? 1 = some (Text.of "riscv: hart:2, nop\n\n") ∧
      report.tally.discardedRegisters = 1 := by
  have hok : (Report.ofLog 2 false twoSnapshots).isOk = true := by decide +kernel
  cases h : Report.ofLog 2 false twoSnapshots with
  | error fault => rw [h] at hok; cases hok
  | ok report =>
    obtain ⟨hglobal, hcore, -, -, hdiscarded⟩ := streams_of_recording 2 false _ report h
    refine ⟨report, rfl, hglobal.trans ?_, (hcore 1 (by decide)).trans ?_, hdiscarded.trans ?_⟩
    · decide +kernel
    · decide +kernel
    · decide +kernel

end Recording

end HartTimeline
