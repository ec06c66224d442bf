import HartTimeline.Proofs.Text.Paragraphs
import HartTimeline.Timeline

/-!
# Reading a stream back

A reader sees the text of a stream and nothing else. It splits the text into paragraphs, takes those
that begin with the heading of a core as that core's blocks, and reads every further line of such a
paragraph as `name = value` or `name = old -> value`.

Main statement: `readBlocks?_render`, a stream of readable entries gives back the blocks that were
written to it.
-/

namespace HartTimeline

open Text (IsWord IsParagraph paragraphs)

/-- A list that was written element by element is read back element by element. -/
theorem mapM_map_eq_some {α β γ : Type} {write : α → β} {read : β → Option γ} {value : α → γ}
    {l : List α} (h : ∀ a ∈ l, read (write a) = some (value a)) :
    (l.map write).mapM read = some (l.map value) := by
  induction l with
  | nil => rfl
  | cons a l ih =>
    have ha := h a List.mem_cons_self
    have hl := ih fun b hb => h b (List.mem_cons_of_mem a hb)
    simp [ha, hl]

/-! ## Changes -/

namespace Change

/-- The words of the line that shows a change. -/
def words : Change → List Text
  | new n v => [n, Text.of "=", v]
  | changed n old v => [n, Text.of "=", old, Text.of "->", v]

/-- The change as a line, without its ending. -/
def line (c : Change) : Text :=
  [' '].intercalate c.words

/-- The change that a line shows. -/
def read? (line : Text) : Option Change :=
  match line.splitOn ' ' with
  | [n, eq, v] => if eq = Text.of "=" then some (new n v) else none
  | [n, eq, old, arrow, v] =>
    if eq = Text.of "=" ∧ arrow = Text.of "->" then some (changed n old v) else none
  | _ => none

/-- The name and the values of a change are words. -/
def IsWorded : Change → Prop
  | new n v => IsWord n ∧ IsWord v
  | changed n old v => IsWord n ∧ IsWord old ∧ IsWord v

/-- A change is written as its line. -/
theorem render_eq_line (c : Change) : c.render = c.line ++ ['\n'] := by
  cases c <;> simp [render, line, words, List.intercalate, Text.of]

theorem isWord_of_mem_words {c : Change} (hc : c.IsWorded) : ∀ w ∈ c.words, IsWord w := by
  have heq : IsWord (Text.of "=") := by decide +kernel
  have harrow : IsWord (Text.of "->") := by decide +kernel
  intro w hw
  cases c with
  | new n v =>
    obtain ⟨hn, hv⟩ := hc
    simp only [words, List.mem_cons, List.not_mem_nil, or_false] at hw
    rcases hw with rfl | rfl | rfl
    · exact hn
    · exact heq
    · exact hv
  | changed n old v =>
    obtain ⟨hn, hold, hv⟩ := hc
    simp only [words, List.mem_cons, List.not_mem_nil, or_false] at hw
    rcases hw with rfl | rfl | rfl | rfl | rfl
    · exact hn
    · exact heq
    · exact hold
    · exact harrow
    · exact hv

/-- A line of words is split back into them, since words hold no blank. -/
theorem splitOn_line {c : Change} (hc : c.IsWorded) : c.line.splitOn ' ' = c.words := by
  have hblank : ∀ w ∈ c.words, ' ' ∉ w := fun w hw =>
    (isWord_of_mem_words hc w hw).not_mem (by decide)
  exact List.splitOn_intercalate ' ' hblank (by cases c <;> simp [words])

/-- It shows the change that it was written for. -/
theorem read?_line {c : Change} (hc : c.IsWorded) : read? c.line = some c := by
  rw [read?, splitOn_line hc]
  cases c <;> simp [words]

/-- The line of a change is not empty and holds no line feed. -/
theorem line_ne_nil_and_not_mem {c : Change} (hc : c.IsWorded) :
    c.line ≠ [] ∧ '\n' ∉ c.line := by
  constructor
  · intro h
    have hread := read?_line hc
    rw [h] at hread
    cases hread
  · exact Text.not_mem_intercalate (by decide) fun w hw =>
      (isWord_of_mem_words hc w hw).not_mem (by decide)

end Change

/-! ## Blocks -/

namespace Block

/-- The line that opens a core's block, without its ending. -/
def heading (core : Nat) : Text :=
  Text.of "Core " ++ Text.decimal core ++ Text.of ":"

/-- The lines of a block, without their endings. -/
def lines (b : Block) : List Text :=
  heading b.core :: b.changes.map Change.line

/-- The block without the two line feeds at its end. -/
def paragraph (b : Block) : Text :=
  ['\n'].intercalate b.lines

/-- Whether a paragraph of a stream is a block of a core. -/
def opensWith (core : Nat) (p : Text) : Bool :=
  (p.splitOn '\n').head? = some (heading core)

/-- The changes that a paragraph shows, if it is a block. -/
def read? (p : Text) : Option (List Change) :=
  (p.splitOn '\n').tail.mapM Change.read?

/-- The names and values in a block are words. -/
def IsWorded (b : Block) : Prop :=
  ∀ c ∈ b.changes, c.IsWorded

/-- Lines that all end in a line feed are lines with one between them and one at the end. -/
theorem intercalate_concat (first : Text) (rest : List Text) :
    ['\n'].intercalate (first :: rest) ++ ['\n'] =
      first ++ '\n' :: rest.flatMap fun l => l ++ ['\n'] := by
  induction rest generalizing first with
  | nil => simp
  | cons l rest ih =>
    rw [List.intercalate_cons_cons, List.append_assoc, ih l, List.flatMap_cons]
    simp

theorem render_eq_paragraph (b : Block) : b.render = b.paragraph ++ ['\n', '\n'] := by
  have hsplit : ['\n', '\n'] = ['\n'] ++ ['\n'] := rfl
  have hheader : header b.core = heading b.core ++ ['\n'] := by
    simp [header, heading, Text.of]
  have hlines : b.changes.flatMap Change.render =
      (b.changes.map Change.line).flatMap fun l => l ++ ['\n'] := by
    rw [List.flatMap_map]
    exact List.flatMap_congr fun c _ => c.render_eq_line
  rw [hsplit, ← List.append_assoc, paragraph, lines, intercalate_concat, render, hheader, hlines]
  simp

/-- Headings of different cores differ. -/
theorem heading_inj {core core' : Nat} : heading core = heading core' ↔ core = core' := by
  constructor
  · intro h
    apply Text.decimal_inj
    simpa [heading] using h
  · intro h
    rw [h]

theorem feed_not_mem_heading (core : Nat) : '\n' ∉ heading core := by
  have hdecimal : '\n' ∉ Text.decimal core := fun h =>
    absurd (Text.isDigit_of_mem_decimal h) (by decide)
  simp [heading, Text.of, hdecimal]

theorem ne_nil_and_not_mem_of_mem_lines {b : Block} (hb : b.IsWorded) :
    ∀ l ∈ b.lines, l ≠ [] ∧ '\n' ∉ l := by
  intro l hl
  rcases List.mem_cons.1 hl with rfl | hl
  · exact ⟨by simp [heading, Text.of], feed_not_mem_heading b.core⟩
  · obtain ⟨c, hc, rfl⟩ := List.mem_map.1 hl
    exact Change.line_ne_nil_and_not_mem (hb c hc)

/-- A block is split into the lines that it was written from. -/
theorem splitOn_paragraph {b : Block} (hb : b.IsWorded) :
    b.paragraph.splitOn '\n' = b.lines :=
  List.splitOn_intercalate '\n' (fun l hl => (ne_nil_and_not_mem_of_mem_lines hb l hl).2)
    (by simp [lines])

theorem isParagraph_paragraph {b : Block} (hb : b.IsWorded) : IsParagraph b.paragraph :=
  Text.isParagraph_intercalate (ne_nil_and_not_mem_of_mem_lines hb)

theorem opensWith_paragraph {b : Block} (hb : b.IsWorded) (core : Nat) :
    opensWith core b.paragraph = decide (b.core = core) := by
  unfold opensWith
  rw [splitOn_paragraph hb, lines, List.head?_cons]
  simp [heading_inj]

/-- A block shows the changes that it was written for. -/
theorem read?_paragraph {b : Block} (hb : b.IsWorded) : read? b.paragraph = some b.changes := by
  unfold read?
  rw [splitOn_paragraph hb, lines, List.tail_cons,
    mapM_map_eq_some fun c hc => Change.read?_line (hb c hc), List.map_id']

end Block

/-! ## Streams -/

namespace Entry

/-- The entry without the two line feeds at its end. -/
def paragraph : Entry → Text
  | trace t _ => t
  | block b => b.paragraph

/-- The block that an entry is, if it is one. -/
def block? : Entry → Option Block
  | trace .. => none
  | block b => some b

/-- A reader can tell what the entry is: a trace line is one line and starts like one, and the names
and values in a block are words. -/
def IsReadable : Entry → Prop
  | trace t _ => Line.isTrace t = true ∧ '\n' ∉ t
  | block b => b.IsWorded

theorem render_eq_paragraph (e : Entry) : e.render = e.paragraph ++ ['\n', '\n'] := by
  cases e with
  | trace t core? => rfl
  | block b => exact b.render_eq_paragraph

theorem isParagraph_paragraph {e : Entry} (he : e.IsReadable) : IsParagraph e.paragraph := by
  cases e with
  | trace t core? => exact Text.isParagraph_of_not_mem he.2
  | block b => exact Block.isParagraph_paragraph he

/-- A trace line is not taken for a block. -/
theorem opensWith_trace {t : Text} (htrace : Line.isTrace t = true) (ht : '\n' ∉ t)
    (core : Nat) : Block.opensWith core t = false := by
  have hne : t ≠ Block.heading core := by
    rintro rfl
    simp [Line.isTrace, Line.traceStart, Block.heading, Text.of] at htrace
  rw [Block.opensWith, List.splitOn_eq_singleton ht]
  simpa using hne

end Entry

/-- The blocks of a core that a stream shows, each as its changes, if all lines can be read. -/
def readBlocks? (core : Nat) (stream : Text) : Option (List (List Change)) :=
  ((paragraphs stream).filter (Block.opensWith core)).mapM Block.read?

namespace Timeline

/-- The blocks of a core among some entries, in order. -/
def blocksOf (core : Nat) (es : List Entry) : List Block :=
  (es.filterMap Entry.block?).filter fun b => b.core = core

@[simp] theorem blocksOf_nil (core : Nat) : blocksOf core [] = [] := rfl

@[simp] theorem blocksOf_cons_trace (core : Nat) (t : Text) (core? : Option Nat)
    (es : List Entry) : blocksOf core (.trace t core? :: es) = blocksOf core es := rfl

@[simp] theorem blocksOf_cons_block (core : Nat) (b : Block) (es : List Entry) :
    blocksOf core (.block b :: es) =
      if b.core = core then b :: blocksOf core es else blocksOf core es := by
  by_cases h : b.core = core <;> simp [blocksOf, Entry.block?, h]

theorem blocksOf_append (core : Nat) (es fs : List Entry) :
    blocksOf core (es ++ fs) = blocksOf core es ++ blocksOf core fs := by
  simp [blocksOf]

/-- The entries of a core hold all of its blocks. -/
theorem blocksOf_filter (core : Nat) (es : List Entry) :
    blocksOf core (es.filter fun e => e.core? = some core) = blocksOf core es := by
  induction es with
  | nil => rfl
  | cons e es ih =>
    rw [List.filter_cons]
    cases e with
    | trace t core? =>
      rw [blocksOf_cons_trace]
      split
      · rw [blocksOf_cons_trace, ih]
      · exact ih
    | block b =>
      by_cases h : b.core = core
      · rw [if_pos (by simp [Entry.core?, h]), blocksOf_cons_block, blocksOf_cons_block, ih]
      · rw [if_neg (by simp [Entry.core?, h]), blocksOf_cons_block, if_neg h, ih]

end Timeline

/-- The blocks among readable entries can be read. -/
theorem Timeline.isWorded_of_mem_blocksOf {es : List Entry} {core : Nat} {b : Block}
    (h : ∀ e ∈ es, e.IsReadable) (hb : b ∈ blocksOf core es) : b.IsWorded := by
  obtain ⟨e, he, hblock⟩ := List.mem_filterMap.1 (List.mem_filter.1 hb).1
  have hreadable := h e he
  cases e with
  | trace t core? => cases hblock
  | block b' =>
    cases hblock
    exact hreadable

theorem render_eq_ofParagraphs (es : List Entry) :
    Timeline.render es = Text.ofParagraphs (es.map Entry.paragraph) := by
  unfold Timeline.render Text.ofParagraphs
  rw [List.flatMap_map]
  exact List.flatMap_congr fun e _ => e.render_eq_paragraph

theorem paragraphs_render {es : List Entry} (h : ∀ e ∈ es, e.IsReadable) :
    paragraphs (Timeline.render es) = es.map Entry.paragraph ++ [[]] := by
  rw [render_eq_ofParagraphs, Text.paragraphs_ofParagraphs]
  intro p hp
  obtain ⟨e, he, rfl⟩ := List.mem_map.1 hp
  exact Entry.isParagraph_paragraph (h e he)

theorem filter_paragraphs {es : List Entry} (h : ∀ e ∈ es, e.IsReadable) (core : Nat) :
    (es.map Entry.paragraph).filter (Block.opensWith core) =
      (Timeline.blocksOf core es).map Block.paragraph := by
  induction es with
  | nil => rfl
  | cons e es ih =>
    have he := h e List.mem_cons_self
    have hrest := ih fun e' he' => h e' (List.mem_cons_of_mem e he')
    cases e with
    | trace t core? =>
      rw [List.map_cons, Entry.paragraph, List.filter_cons_of_neg, hrest]
      · rfl
      · simp [Entry.opensWith_trace he.1 he.2 core]
    | block b =>
      rw [List.map_cons, Entry.paragraph, List.filter_cons, Block.opensWith_paragraph he, hrest,
        Timeline.blocksOf_cons_block]
      by_cases hcore : b.core = core <;> simp [hcore]

/-- Reading a stream gives back the blocks of a core that were written to it, in order. -/
theorem readBlocks?_render {es : List Entry} (h : ∀ e ∈ es, e.IsReadable) (core : Nat) :
    readBlocks? core (Timeline.render es) =
      some ((Timeline.blocksOf core es).map Block.changes) := by
  -- the empty piece after the last entry is no block
  have hlast : [([] : Text)].filter (Block.opensWith core) = [] := by
    simp [Block.opensWith, Block.heading, Text.of]
  rw [readBlocks?, paragraphs_render h, List.filter_append, filter_paragraphs h, hlast,
    List.append_nil]
  exact mapM_map_eq_some fun b hb => Block.read?_paragraph (Timeline.isWorded_of_mem_blocksOf h hb)

example : readBlocks? 0 (Text.of "riscv x\n\nCore 0:\nsp = 5\npc = 1 -> 2\n\nCore 1:\n\n") =
    some [[.new (Text.of "sp") (Text.of "5"),
      .changed (Text.of "pc") (Text.of "1") (Text.of "2")]] := by decide +kernel

end HartTimeline
