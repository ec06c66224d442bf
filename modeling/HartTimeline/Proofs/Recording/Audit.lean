import HartTimeline.Proofs.Recording.Extraction
import HartTimeline.Proofs.Run.Audit

/-!
# Auditing the counters

Whoever has the streams can check the counters of a log against their text: trace lines and blocks
by how a piece of a stream begins, new and changed registers by the number of words on the lines
below the headings.

Main statement: `tally_audited`, the counters are what the texts of the streams show.
-/

namespace HartTimeline

open Text (paragraphs)

/-- Texts made from some things are counted as the things are, if they show what is counted. -/
theorem countP_map_eq {α β : Type} {as : List α} {f : α → β} {p : β → Bool} {q : α → Bool}
    (h : ∀ a ∈ as, p (f a) = q a) : (as.map f).countP p = as.countP q := by
  rw [List.countP_map]
  apply List.countP_congr
  intro a ha
  rw [Function.comp_apply, h a ha]

/-! ## Lines below a heading -/

namespace Block

/-- The lines below the headings of a core's blocks, in the pieces of a stream. -/
def changeLines (core : Nat) (pieces : List Text) : List Text :=
  (pieces.filter (opensWith core)).flatMap fun p => (p.splitOn '\n').tail

/-- Whether a line has this many pieces when it is split at single blanks. -/
def splitsInto (n : Nat) (line : Text) : Bool :=
  (line.splitOn ' ').length = n

/-- The line of a new register has three pieces, that of a changed one five. -/
theorem splitsInto_line {c : Change} (hc : c.IsWorded) (n : Nat) :
    splitsInto n c.line = decide ((if c.isNew then 3 else 5) = n) := by
  unfold splitsInto
  rw [Change.splitOn_line hc]
  cases c <;> rfl

variable {bs : List Block}

/-- The lines below the headings are those of the changes. -/
theorem flatMap_tail_splitOn (h : ∀ b ∈ bs, b.IsWorded) :
    (bs.map paragraph).flatMap (fun p => (p.splitOn '\n').tail) =
      (bs.flatMap changes).map Change.line := by
  rw [List.flatMap_map, List.map_flatMap]
  apply List.flatMap_congr
  intro b hb
  rw [splitOn_paragraph (h b hb)]
  rfl

/-- Counting the lines of some changes by their pieces is counting the changes by their kind. -/
theorem countP_line {cs : List Change} (h : ∀ c ∈ cs, c.IsWorded) :
    (cs.map Change.line).countP (splitsInto 3) = cs.countP Change.isNew ∧
      (cs.map Change.line).countP (splitsInto 5) = cs.countP fun c => !c.isNew := by
  constructor
  · apply countP_map_eq
    intro c hc
    rw [splitsInto_line (h c hc)]
    cases c.isNew <;> rfl
  · apply countP_map_eq
    intro c hc
    rw [splitsInto_line (h c hc)]
    cases c.isNew <;> rfl

end Block

/-! ## Pieces by their beginning -/

namespace Entry

/-- Whether a piece of a stream is a trace line of no core, as far as its text tells. -/
def tellsNoCore (piece : Text) : Bool :=
  Line.isTrace piece && (traceCore piece).toOption.any fun core => core < 0

/-- Whether a piece of a stream begins with the heading of one of so many cores. -/
def opensBlock (cores : Nat) (piece : Text) : Bool :=
  (List.range cores).any fun core => Block.opensWith core piece

variable {e : Entry} {cores : Nat}

theorem tellsNoCore_paragraph (he : e.IsReadable) (hrouted : e.IsRouted cores) :
    tellsNoCore e.paragraph = decide (e.core? = none) := by
  unfold tellsNoCore
  rw [isTrace_paragraph he]
  cases e with
  | trace t core? =>
    obtain ⟨named, htoken, -, rfl⟩ := hrouted
    show (true && (traceCore t).toOption.any fun core : Int => core < 0) =
      decide (named.toNat? = none)
    rw [htoken]
    cases named with
    | ofNat n =>
      have hnonneg : ¬(n : Int) < 0 := by omega
      simp [Except.toOption, Int.toNat?, hnonneg]
    | negSucc n =>
      have hneg : Int.negSucc n < 0 := Int.negSucc_lt_zero n
      simp [Except.toOption, Int.toNat?, hneg]
  | block b => rfl

theorem opensBlock_paragraph (he : e.IsReadable) (hrouted : e.IsRouted cores) :
    opensBlock cores e.paragraph = e.isBlock := by
  unfold opensBlock
  simp only [opensWith_paragraph he]
  cases e with
  | trace t core? => simp [block?, isBlock]
  | block b =>
    have hlt : b.core < cores := hrouted
    simp [block?, isBlock, hlt]

end Entry

namespace Timeline

variable {es : List Entry} {cores : Nat}

/-- The row of a core's counters that some entries account for is what the pieces of the core's
stream show, and every line below a heading shows a new register or a changed one. -/
theorem ofEntries_audited (h : ∀ e ∈ es, e.IsReadable) (core : Nat) :
    let pieces := (es.filter fun e => e.core? = some core).map Entry.paragraph
    let lines := Block.changeLines core pieces
    let row := CoreTally.ofEntries es core
    row.traceLines = pieces.countP Line.isTrace ∧
      row.snapshots = pieces.countP (Block.opensWith core) ∧
      row.newRegisters = lines.countP (Block.splitsInto 3) ∧
      row.changedRegisters = lines.countP (Block.splitsInto 5) ∧
      ∀ line ∈ lines, Block.splitsInto 3 line = true ∨ Block.splitsInto 5 line = true := by
  intro pieces lines row
  have hown : ∀ e ∈ es.filter fun e => e.core? = some core, e.IsReadable := fun e he =>
    h e (List.mem_filter.1 he).1
  -- the blocks among the pieces are the blocks of the core, and their lines those of its changes
  have hblocks : pieces.filter (Block.opensWith core) =
      (blocksOf core es).map Block.paragraph := by
    rw [filter_paragraphs hown, blocksOf_filter]
  have hworded : ∀ b ∈ blocksOf core es, b.IsWorded := fun b hb => isWorded_of_mem_blocksOf h hb
  have hlines : lines = ((blocksOf core es).flatMap Block.changes).map Change.line := by
    show Block.changeLines core pieces = _
    rw [Block.changeLines, hblocks, Block.flatMap_tail_splitOn hworded]
  have hchanges : ∀ c ∈ (blocksOf core es).flatMap Block.changes, c.IsWorded := by
    intro c hc
    obtain ⟨b, hb, hmem⟩ := List.mem_flatMap.1 hc
    exact hworded b hb c hmem
  have hcounts := Block.countP_line hchanges
  refine ⟨?_, ?_, ?_, ?_, ?_⟩
  · rw [countP_map_eq fun e he => Entry.isTrace_paragraph (hown e he), List.countP_filter]
    rfl
  · rw [List.countP_eq_length_filter, hblocks, List.length_map]
    rfl
  · rw [hlines, hcounts.1, List.countP_flatMap]
    rfl
  · rw [hlines, hcounts.2, List.countP_flatMap]
    rfl
  · rw [hlines]
    intro line hline
    obtain ⟨c, hc, rfl⟩ := List.mem_map.1 hline
    rw [Block.splitsInto_line (hchanges c hc), Block.splitsInto_line (hchanges c hc)]
    cases c.isNew <;> simp

/-- The pieces of the stream of all entries are trace lines, some of them of no core, and blocks. -/
theorem countP_audited (h : ∀ e ∈ es, e.IsReadable ∧ e.IsRouted cores) :
    let pieces := es.map Entry.paragraph
    es.countP (fun e => !e.isBlock) = pieces.countP Line.isTrace ∧
      es.countP (fun e => e.core? = none) = pieces.countP Entry.tellsNoCore ∧
      es.countP Entry.isBlock = pieces.countP (Entry.opensBlock cores) := by
  refine ⟨?_, ?_, ?_⟩
  · exact (countP_map_eq fun e he => Entry.isTrace_paragraph (h e he).1).symm
  · exact (countP_map_eq fun e he => Entry.tellsNoCore_paragraph (h e he).1 (h e he).2).symm
  · exact (countP_map_eq fun e he => Entry.opensBlock_paragraph (h e he).1 (h e he).2).symm

/-- The pieces of a stream, with the empty one after the last entry left out. -/
theorem dropLast_paragraphs (h : ∀ e ∈ es, e.IsReadable) :
    (paragraphs (render es)).dropLast = es.map Entry.paragraph := by
  rw [paragraphs_render h, List.dropLast_concat]

end Timeline

namespace Recording

/-- The counters of a log can be audited from the text of its streams. Split at two line feeds, the
stream of a core shows as many trace lines as its row counts, as many pieces with the core's heading
as it counts snapshots, and below these headings as many lines of three words as it counts new
registers, as many of five as changed ones, and no other line. The stream of all entries shows the
trace lines, those of no core, and a block for every closed snapshot that was not dropped. -/
theorem tally_audited (cores : Nat) (skipBlank : Bool) (log : Text) (report : Report)
    (h : Report.ofLog cores skipBlank log = .ok report) :
    (∀ core < cores, ∃ row stream, report.tally.cores[core]? = some row ∧ row.core = core ∧
      report.timeline.coreStream? core = some stream ∧
      let pieces := (paragraphs stream).dropLast
      let lines := Block.changeLines core pieces
      row.traceLines = pieces.countP Line.isTrace ∧
        row.snapshots = pieces.countP (Block.opensWith core) ∧
        row.newRegisters = lines.countP (Block.splitsInto 3) ∧
        row.changedRegisters = lines.countP (Block.splitsInto 5) ∧
        ∀ line ∈ lines, Block.splitsInto 3 line = true ∨ Block.splitsInto 5 line = true) ∧
    let pieces := (paragraphs report.timeline.globalStream).dropLast
    report.tally.traceLines = pieces.countP Line.isTrace ∧
      report.tally.unattributedTraceLines = pieces.countP Entry.tellsNoCore ∧
      report.tally.closedSnapshots =
        report.tally.droppedSnapshots + pieces.countP (Entry.opensBlock cores) := by
  have hentries := isReadable_and_isRouted_of_ofLog h
  have hreadable : ∀ e ∈ report.timeline.entries.toList, e.IsReadable := fun e he =>
    (hentries e he).1
  obtain ⟨-, rfl⟩ := Run.ofLog_eq_ok_iff.1 h
  have haudited := (Audited.start cores skipBlank).after (Text.lines log).zipIdx
  have hfixed := Run.after_fixed (Run.start cores skipBlank) (Text.lines log).zipIdx
  generalize (Run.start cores skipBlank).after (Text.lines log).zipIdx = r at *
  have hcores : r.cores = cores := hfixed.2.1.trans (Baselines.cores_initial cores)
  have htracked : r.timeline.cores = cores := hfixed.2.2
  constructor
  · intro core hcore
    have hown : ∀ e ∈ r.timeline.entries.toList.filter fun e => e.core? = some core,
        e.IsReadable := fun e he => hreadable e (List.mem_filter.1 he).1
    refine ⟨CoreTally.ofEntries r.timeline.entries.toList core, r.timeline.coreStream core, ?_,
      rfl, if_pos (htracked.symm ▸ hcore), ?_⟩
    · show r.tally.cores[core]? = _
      rw [haudited.rows, hcores, List.getElem?_map, List.getElem?_range hcore, Option.map_some]
    · rw [Timeline.coreStream, Timeline.dropLast_paragraphs hown]
      exact Timeline.ofEntries_audited hreadable core
  · have hcounts := Timeline.countP_audited hentries
    rw [← Timeline.dropLast_paragraphs hreadable] at hcounts
    refine ⟨?_, ?_, ?_⟩
    · exact haudited.traces.trans hcounts.1
    · exact haudited.unattributed.trans hcounts.2.1
    · exact haudited.blocks.trans (congrArg _ hcounts.2.2)

/-- A log with registers named like the signs in a block, and trace lines of a core and of none. -/
def signsAsNames : Text :=
  Text.of ("mhartid 1\npc 10\n= ->\nriscv x:0, n\nriscv hart:1, n\npc 14\nmhartid 1\n= =\n" ++
    "-> 7 pc 18\npc 1c\n")

/-- The stream of its first core. -/
def signsAsNamesStream : Text :=
  Text.of ("riscv hart:1, n\n\nCore 0:\nmhartid = 1\npc = 10\n= = ->\n\n" ++
    "Core 0:\npc = 10 -> 18\n= = -> -> =\n-> = 7\n\n")

/-- From the text of that stream the row of the core is told, and from the stream of all entries the
trace line that is in no core's stream. -/
theorem tally_audited_of_signsAsNames :
    ∃ report row, Report.ofLog 2 false signsAsNames = .ok report ∧
      report.timeline.coreStream? 0 = some signsAsNamesStream ∧
      report.tally.cores[0]? = some row ∧ row.traceLines = 1 ∧ row.snapshots = 2 ∧
      row.newRegisters = 4 ∧ row.changedRegisters = 2 ∧
      report.tally.unattributedTraceLines = 1 := by
  have hshown : (Report.ofLog 2 false signsAsNames).toOption.map
      (fun report => (report.timeline.globalStream, report.timeline.coreStream? 0)) =
        some (Text.of "riscv x:0, n\n\n" ++ signsAsNamesStream, some signsAsNamesStream) := by
    decide +kernel
  cases h : Report.ofLog 2 false signsAsNames with
  | error fault =>
    rw [h] at hshown
    cases hshown
  | ok report =>
    rw [h] at hshown
    obtain ⟨hglobal, hcore⟩ := Prod.mk.inj (Option.some.inj hshown)
    obtain ⟨hrows, -, hunattributed, -⟩ := tally_audited 2 false _ report h
    obtain ⟨row, stream, hrow, -, hstream, htraces, hsnapshots, hnew, hchanged, -⟩ :=
      hrows 0 (by decide)
    obtain rfl : signsAsNamesStream = stream := Option.some.inj (hcore.symm.trans hstream)
    rw [hglobal] at hunattributed
    refine ⟨report, row, rfl, hcore, hrow, htraces.trans ?_, hsnapshots.trans ?_, hnew.trans ?_,
      hchanged.trans ?_, hunattributed.trans ?_⟩ <;> decide +kernel

end Recording

end HartTimeline
