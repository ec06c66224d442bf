import HartTimeline.Proofs.Recording.Replay

/-!
# Extracting a core's stream

The stream of all entries is enough to have the stream of every core: a reader splits its text at
pairs of line feeds and keeps the pieces that begin with the heading of the core or are trace lines
with a hart token of the core. No name, value or trace line of a log can be taken for anything else.

Main statements: `tellsCore_paragraph`, the text of an entry tells the core that it belongs to, and
`coreStream_extracted`, the pieces that tell a core make up its stream.
-/

namespace HartTimeline

open Text (paragraphs ofParagraphs)

/-! ## What the text of an entry tells -/

theorem Block.head?_paragraph (b : Block) : b.paragraph.head? = some 'C' := by
  unfold Block.paragraph Block.lines
  cases b.changes <;> simp [Block.heading, Text.of]

namespace Entry

variable {e : Entry} {cores : Nat}

/-- A trace line goes to the core that its hart token names, and a block is of a tracked core. -/
def IsRouted (cores : Nat) : Entry → Prop
  | trace t core? => ∃ core : Int, traceCore t = .ok core ∧ core < cores ∧ core? = core.toNat?
  | block b => b.core < cores

/-- The core that an entry belongs to is tracked. -/
theorem IsRouted.lt (h : e.IsRouted cores) {core : Nat} (hcore : e.core? = some core) :
    core < cores := by
  cases e with
  | trace t core? =>
    obtain ⟨named, -, hlt, hnamed⟩ := h
    obtain rfl : named = core := Int.mem_toNat?.1 (hnamed.symm.trans hcore)
    exact Int.ofNat_lt.1 hlt
  | block b =>
    obtain rfl : b.core = core := Option.some.inj hcore
    exact h

/-- Whether a piece of a stream belongs to a core, as far as its text tells. -/
def tellsCore (core : Nat) (piece : Text) : Bool :=
  Block.opensWith core piece ||
    (Line.isTrace piece && (traceCore piece).toOption = some (core : Int))

/-- An entry begins with the first letter of its kind. -/
theorem head?_paragraph (he : e.IsReadable) :
    e.paragraph.head? = some (if e.isBlock then 'C' else 'r') := by
  cases e with
  | trace t core? => exact Line.head?_of_isTrace he.1
  | block b => exact b.head?_paragraph

theorem isTrace_paragraph (he : e.IsReadable) : Line.isTrace e.paragraph = !e.isBlock := by
  cases e with
  | trace t core? => exact he.1
  | block b =>
    show Line.isTrace b.paragraph = false
    rw [Bool.eq_false_iff]
    intro htrace
    have hhead := Line.head?_of_isTrace htrace
    rw [b.head?_paragraph] at hhead
    exact absurd hhead (by decide)

theorem opensWith_paragraph (he : e.IsReadable) (core : Nat) :
    Block.opensWith core e.paragraph = e.block?.any fun b => b.core = core := by
  cases e with
  | trace t core? => exact opensWith_trace he.1 he.2 core
  | block b => exact Block.opensWith_paragraph he core

/-- The text of an entry tells the core that it belongs to. -/
theorem tellsCore_paragraph (he : e.IsReadable) (hrouted : e.IsRouted cores) (core : Nat) :
    tellsCore core e.paragraph = decide (e.core? = some core) := by
  unfold tellsCore
  rw [opensWith_paragraph he, isTrace_paragraph he]
  cases e with
  | trace t core? =>
    obtain ⟨named, htoken, -, rfl⟩ := hrouted
    have hsame : named = (core : Int) ↔ named.toNat? = some core := Int.mem_toNat?.symm
    show (false || (true && decide ((traceCore t).toOption = some (core : Int)))) =
      decide (named.toNat? = some core)
    simp [htoken, Except.toOption, hsame]
  | block b =>
    show (decide (b.core = core) || (false && _)) = decide (some b.core = some core)
    simp

end Entry

namespace Timeline

variable {es : List Entry}

/-- A stream is empty or ends in two line feeds, which never touch another one, and splitting it
gives back its entries. -/
theorem shape_render (h : ∀ e ∈ es, e.IsReadable) :
    (render es = [] ∨ ['\n', '\n'] <:+ render es) ∧ ¬['\n', '\n', '\n'] <:+: render es ∧
      paragraphs (render es) = es.map Entry.paragraph ++ [[]] := by
  refine ⟨?_, ?_, paragraphs_render h⟩
  · rw [render_eq_ofParagraphs]
    exact Text.ofParagraphs_eq_nil_or_feeds_suffix _
  · rw [render_eq_ofParagraphs]
    apply Text.not_three_feeds_ofParagraphs
    intro p hp
    obtain ⟨e, he, rfl⟩ := List.mem_map.1 hp
    have hhead := Entry.head?_paragraph (h e he)
    refine ⟨Entry.isParagraph_paragraph (h e he), ?_, ?_⟩
    · intro hnil
      rw [hnil] at hhead
      cases hhead
    · rw [hhead]
      cases e.isBlock <;> decide

/-- The pieces that tell a core are the entries that belong to it. -/
theorem filter_tellsCore {cores : Nat} (h : ∀ e ∈ es, e.IsReadable ∧ e.IsRouted cores)
    (core : Nat) :
    (es.map Entry.paragraph).filter (Entry.tellsCore core) =
      (es.filter fun e => e.core? = some core).map Entry.paragraph := by
  rw [List.filter_map]
  congr 1
  apply List.filter_congr
  intro e he
  exact Entry.tellsCore_paragraph (h e he).1 (h e he).2 core

end Timeline

namespace Recording

variable {log : Recording} {cores k : Nat}

/-! ## Entries of a log -/

theorem isRouted_of_entryAt? {entry : Entry} (h : log.entryAt? cores k = some entry) :
    entry.IsRouted cores := by
  rcases entryAt?_cases h with ⟨text, core, -, -, htoken, hlt, rfl⟩ | ⟨core, -, hlt, rfl⟩
  · exact ⟨core, htoken, hlt, rfl⟩
  · exact hlt

/-- What is written of a trace line is the line itself. -/
theorem mem_of_entryAt? {entry : Entry} (h : log.entryAt? cores k = some entry)
    (htrace : entry.isBlock = false) : entry.paragraph ∈ log := by
  rcases entryAt?_cases h with ⟨text, core, ht, -, -, -, rfl⟩ | ⟨core, -, -, rfl⟩
  · exact List.mem_of_getElem? ht
  · cases htrace

/-- The entries that a log leaves in its timeline. -/
theorem exists_entryAt?_of_ofLog {skipBlank : Bool} {log : Text} {report : Report}
    (h : Report.ofLog cores skipBlank log = .ok report) {e : Entry}
    (he : e ∈ report.timeline.entries.toList) :
    ∃ k, entryAt? (Text.lines log) cores k = some e := by
  obtain ⟨-, r, hreads, -, rfl⟩ := exists_run_of_ofLog h
  rw [show r.report.timeline = r.timeline from rfl, hreads.entries] at he
  obtain ⟨k, -, hk⟩ := List.mem_filterMap.1 he
  exact ⟨k, hk⟩

theorem isReadable_and_isRouted_of_ofLog {skipBlank : Bool} {log : Text} {report : Report}
    (h : Report.ofLog cores skipBlank log = .ok report) :
    ∀ e ∈ report.timeline.entries.toList, e.IsReadable ∧ e.IsRouted cores := by
  intro e he
  obtain ⟨k, hk⟩ := exists_entryAt?_of_ofLog h he
  exact ⟨isReadable_of_entryAt? (fun _ => Text.feed_not_mem_of_mem_lines) hk,
    isRouted_of_entryAt? hk⟩

/-- Every stream can be split back into its entries, and the stream of all entries is enough to have
the streams of the cores. A stream is empty or ends in two line feeds and never holds three of them
in a row. Split at two line feeds, it gives the entries that were written to it, in order, and an
empty piece after the last: trace lines as they stand in the log, and blocks without the two line
feeds that end them. The pieces of the stream of all entries that begin with the heading of a core,
or are trace lines with a hart token of the core, make up the stream of that core. -/
theorem coreStream_extracted (cores : Nat) (skipBlank : Bool) (log : Text) (report : Report)
    (h : Report.ofLog cores skipBlank log = .ok report) :
    (∀ stream ∈ report.timeline.globalStream :: report.timeline.coreStreams,
      (stream = [] ∨ ['\n', '\n'] <:+ stream) ∧ ¬['\n', '\n', '\n'] <:+: stream) ∧
    (∀ e ∈ report.timeline.entries.toList, e.render = e.paragraph ++ ['\n', '\n'] ∧
      (e.isBlock = true ∨ Line.isTrace e.paragraph = true ∧ e.paragraph ∈ Text.lines log)) ∧
    paragraphs report.timeline.globalStream =
      report.timeline.entries.toList.map Entry.paragraph ++ [[]] ∧
    ∀ core < cores, ∃ stream, report.timeline.coreStream? core = some stream ∧
      paragraphs stream = (report.timeline.entries.toList.filter fun e =>
        e.core? = some core).map Entry.paragraph ++ [[]] ∧
      stream = ofParagraphs
        ((paragraphs report.timeline.globalStream).dropLast.filter (Entry.tellsCore core)) := by
  have hentries := isReadable_and_isRouted_of_ofLog h
  have hcores : report.timeline.cores = cores := by
    obtain ⟨-, r, -, hcores, rfl⟩ := exists_run_of_ofLog h
    exact hcores
  -- both kinds of streams show some of the entries
  have hglobal := Timeline.shape_render fun e he => (hentries e he).1
  have hshape := fun core => Timeline.shape_render fun e
    (he : e ∈ report.timeline.entries.toList.filter fun e => e.core? = some core) =>
      (hentries e (List.mem_filter.1 he).1).1
  refine ⟨?_, ?_, hglobal.2.2, ?_⟩
  · intro stream hstream
    rcases List.mem_cons.1 hstream with rfl | hstream
    · exact ⟨hglobal.1, hglobal.2.1⟩
    · obtain ⟨core, -, rfl⟩ := List.mem_map.1 hstream
      exact ⟨(hshape _).1, (hshape _).2.1⟩
  · intro e he
    refine ⟨e.render_eq_paragraph, ?_⟩
    cases hblock : e.isBlock with
    | true => exact Or.inl rfl
    | false =>
      obtain ⟨k, hk⟩ := exists_entryAt?_of_ofLog h he
      right
      rw [Entry.isTrace_paragraph (hentries e he).1, hblock]
      exact ⟨rfl, mem_of_entryAt? hk hblock⟩
  · intro core hcore
    refine ⟨_, if_pos (hcores.symm ▸ hcore), (hshape _).2.2, ?_⟩
    show Timeline.render _ = _
    rw [show report.timeline.globalStream = Timeline.render report.timeline.entries.toList from rfl,
      hglobal.2.2, List.dropLast_concat, Timeline.filter_tellsCore hentries,
      render_eq_ofParagraphs]

/-- A log with a register and a trace line that look like the heading of the first core. -/
def falseHeadings : Text :=
  Text.of ("mhartid 1\npc 10\nCore 0:\nriscv: hart:2, Core 0:\nmhartid 1\npc 14\nmhartid 2\npc 18\n")

/-- Its second core's stream, extracted from the stream of all entries. -/
theorem coreStream_extracted_of_falseHeadings :
    ∃ report, Report.ofLog 2 false falseHeadings = .ok report ∧
      report.timeline.globalStream =
        Text.of ("riscv: hart:2, Core 0:\n\nCore 0:\nmhartid = 1\npc = 10\nCore = 0:\n\n" ++
          "Core 1:\npc = 14\nmhartid = 2\n\n") ∧
      report.timeline.coreStream? 1 =
        some (Text.of "riscv: hart:2, Core 0:\n\nCore 1:\npc = 14\nmhartid = 2\n\n") := by
  have hglobal : (Report.ofLog 2 false falseHeadings).toOption.map
      (fun report => report.timeline.globalStream) = some
        (Text.of ("riscv: hart:2, Core 0:\n\nCore 0:\nmhartid = 1\npc = 10\nCore = 0:\n\n" ++
          "Core 1:\npc = 14\nmhartid = 2\n\n")) := by decide +kernel
  cases h : Report.ofLog 2 false falseHeadings with
  | error fault =>
    rw [h] at hglobal
    cases hglobal
  | ok report =>
    rw [h] at hglobal
    have hstream : report.timeline.globalStream = _ := Option.some.inj hglobal
    obtain ⟨-, -, -, hcore⟩ := coreStream_extracted 2 false _ report h
    obtain ⟨stream, htracked, -, hextracted⟩ := hcore 1 (by decide)
    rw [hstream] at hextracted
    refine ⟨report, rfl, hstream, ?_⟩
    rw [htracked, hextracted]
    decide +kernel

end Recording

end HartTimeline
