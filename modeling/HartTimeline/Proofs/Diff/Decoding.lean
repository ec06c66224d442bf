import HartTimeline.Proofs.Diff.Reading
import HartTimeline.Proofs.Diff.Replay
import HartTimeline.Text.Search

/-!
# What a block tells

A block is written to be read: its text alone gives back the core and the changes, whatever words
the names and values are. The changes in turn say all that is to be known of the later snapshot by
someone who has the earlier one.

Main statements: `decode?_eq_some_iff`, a text shows a block exactly if it is the text of the block,
and `between_decoded`, what the block between two snapshots shows.
-/

namespace HartTimeline

open Text (IsWord paragraphs)

/-- A list that is read element by element is what writing its elements gives, if reading loses
nothing. -/
theorem map_of_mapM_eq_some {α β : Type} {read : β → Option α} {write : α → β}
    (hread : ∀ b a, read b = some a → write a = b) {l : List β} {as : List α}
    (h : l.mapM read = some as) : as.map write = l := by
  induction l generalizing as with
  | nil =>
    cases h
    rfl
  | cons b l ih =>
    rw [List.mapM_cons] at h
    obtain ⟨a, ha, h⟩ := Option.bind_eq_some_iff.1 h
    obtain ⟨rest, hrest, h⟩ := Option.bind_eq_some_iff.1 h
    cases h
    rw [List.map_cons, hread b a ha, ih hrest]

/-! ## Reading loses nothing -/

namespace Change

/-- A line that shows a change is the line of the change. -/
theorem line_of_read? {line : Text} {c : Change} (h : read? line = some c) : c.line = line := by
  -- the words put together again are the line
  suffices hwords : line.splitOn ' ' = c.words by
    rw [Change.line, ← hwords]
    exact List.intercalate_splitOn ' '
  rw [read?] at h
  split at h
  · rename_i n eq v hsplit
    split at h
    · rename_i heq
      cases h
      rw [hsplit, heq]
      rfl
    · cases h
  · rename_i n eq old arrow v hsplit
    split at h
    · rename_i heq
      cases h
      rw [hsplit, heq.1, heq.2]
      rfl
    · cases h
  · cases h

end Change

namespace Block

/-- The core whose block a line opens. -/
def ofHeading? (line : Text) : Option Nat :=
  ((Text.after? (Text.of "Core ") line).bind fun rest => Text.digits? rest.dropLast).filter
    fun core => heading core = line

/-- The block that a text shows: a paragraph and nothing else, which begins with the heading of a
core and goes on with changes. -/
def decode? (t : Text) : Option Block :=
  match paragraphs t with
  | [p, []] => do
    let first ← (p.splitOn '\n').head?
    let core ← ofHeading? first
    let changes ← read? p
    some ⟨core, changes⟩
  | _ => none

theorem ofHeading?_heading (core : Nat) : ofHeading? (heading core) = some core := by
  have hafter :
      Text.after? (Text.of "Core ") (heading core) = some (Text.decimal core ++ [':']) := by
    simp [Text.after?, heading, Text.of]
  rw [ofHeading?, hafter, Option.bind_some, List.dropLast_concat, Text.digits?_decimal]
  simp

theorem heading_of_ofHeading? {line : Text} {core : Nat} (h : ofHeading? line = some core) :
    heading core = line := by
  simpa using (Option.filter_eq_some_iff.1 h).2

theorem decode?_render {b : Block} (hb : b.IsWorded) : decode? b.render = some b := by
  have hone : paragraphs b.render = [b.paragraph, []] := by
    rw [render_eq_paragraph, Text.paragraphs_append [] (isParagraph_paragraph hb)]
    rfl
  rw [decode?, hone]
  simp only [splitOn_paragraph hb, lines, List.head?_cons, read?_paragraph hb]
  simp [ofHeading?_heading]

theorem render_of_decode? {t : Text} {b : Block} (h : decode? t = some b) : b.render = t := by
  rw [decode?] at h
  split at h
  · rename_i p hone
    obtain ⟨first, hfirst, h⟩ := Option.bind_eq_some_iff.1 h
    obtain ⟨core, hcore, h⟩ := Option.bind_eq_some_iff.1 h
    obtain ⟨changes, hchanges, h⟩ := Option.bind_eq_some_iff.1 h
    cases h
    -- the lines of the paragraph are those of the block
    have hlines : p.splitOn '\n' = lines ⟨core, changes⟩ := by
      rw [lines, heading_of_ofHeading? hcore,
        map_of_mapM_eq_some (fun _ _ => Change.line_of_read?) hchanges]
      exact (List.cons_head?_tail hfirst).symm
    have hparagraph : paragraph ⟨core, changes⟩ = p := by
      rw [paragraph, ← hlines]
      exact List.intercalate_splitOn '\n'
    rw [render_eq_paragraph, hparagraph, ← Text.intercalate_paragraphs t, hone]
    simp
  · cases h

/-- A text shows a block exactly if it is the text of the block. -/
theorem decode?_eq_some_iff {t : Text} {b : Block} (hb : b.IsWorded) :
    decode? t = some b ↔ b.render = t := by
  constructor
  · exact render_of_decode?
  · rintro rfl
    exact decode?_render hb

end Block

/-! ## What a block shows -/

/-- All names and values of a snapshot are words. -/
def Snapshot.IsWorded (s : Snapshot) : Prop :=
  ∀ e ∈ s.entries, IsWord e.1 ∧ IsWord e.2

instance : DecidablePred Snapshot.IsWorded := fun s =>
  inferInstanceAs (Decidable (∀ e ∈ s.entries, IsWord e.1 ∧ IsWord e.2))

namespace Change

variable {previous : Snapshot} {es : List (Text × Text)} {name old value : Text}

/-- The changes name registers in the order of the entries. -/
theorem names_against_sublist (previous : Snapshot) (es : List (Text × Text)) :
    ((against previous es).map Change.name).Sublist (es.map Prod.fst) := by
  induction es with
  | nil => exact .slnil
  | cons e es ih =>
    rw [against_cons, List.map_append, List.map_cons]
    cases hof : of? previous e.1 e.2 with
    | none => exact ih.cons e.1
    | some c =>
      rw [Option.toList_some, List.map_singleton, name_of_of? hof]
      exact ih.cons_cons e.1

/-- An entry is shown as new exactly if its name was not there before. -/
theorem new_mem_against_iff :
    new name value ∈ against previous es ↔ (name, value) ∈ es ∧ previous.get? name = none := by
  simp only [against, List.mem_filterMap, of?_eq_some_iff, new.injEq, reduceCtorEq, false_and,
    exists_false, or_false]
  constructor
  · rintro ⟨e, he, ⟨rfl, rfl⟩, hnone⟩
    exact ⟨he, hnone⟩
  · rintro ⟨he, hnone⟩
    exact ⟨(name, value), he, ⟨rfl, rfl⟩, hnone⟩

/-- It is shown with another value exactly if the name had that value before. -/
theorem changed_mem_against_iff :
    changed name old value ∈ against previous es ↔
      (name, value) ∈ es ∧ previous.get? name = some old ∧ old ≠ value := by
  simp only [against, List.mem_filterMap, of?_eq_some_iff, changed.injEq, reduceCtorEq, false_and,
    false_or]
  constructor
  · rintro ⟨e, he, old', ⟨rfl, rfl, rfl⟩, hold⟩
    exact ⟨he, hold⟩
  · rintro ⟨he, hold⟩
    exact ⟨(name, value), he, old, ⟨rfl, rfl, rfl⟩, hold⟩

/-- As many registers are shown as new as there are entries whose name was not there before. -/
theorem countP_isNew_against (previous : Snapshot) (es : List (Text × Text)) :
    (against previous es).countP isNew = es.countP fun e => (previous.get? e.1).isNone := by
  rw [against, List.countP_filterMap]
  apply List.countP_congr
  intro e _
  rw [of?]
  cases previous.get? e.1 with
  | none => simp [isNew]
  | some old => by_cases h : old = e.2 <;> simp [h, isNew]

/-- As many are shown with another value as there are entries that had one. -/
theorem countP_not_isNew_against (previous : Snapshot) (es : List (Text × Text)) :
    ((against previous es).countP fun c => !c.isNew) =
      es.countP fun e => (previous.get? e.1).any fun old => old ≠ e.2 := by
  rw [against, List.countP_filterMap]
  apply List.countP_congr
  intro e _
  rw [of?]
  cases previous.get? e.1 with
  | none => simp [isNew]
  | some old => by_cases h : old = e.2 <;> simp [h, isNew]

end Change

namespace Block

variable {core : Nat} {previous : Option Snapshot} {next : Snapshot}

/-- Between snapshots of words stands a block of words. -/
theorem isWorded_between (core : Nat) (hprevious : ∀ s ∈ previous, s.IsWorded)
    (hnext : next.IsWorded) : (between core previous next).IsWorded := by
  intro c hc
  obtain ⟨e, he, hof⟩ := List.mem_filterMap.1 hc
  obtain ⟨hname, hvalue⟩ := hnext e he
  obtain ⟨rfl, -⟩ | ⟨old, rfl, hold, -⟩ := Change.of?_eq_some_iff.1 hof
  · exact ⟨hname, hvalue⟩
  · cases previous with
    | none => cases hold
    | some s => exact ⟨hname, (hprevious s rfl _ (Assoc.get?_eq_some_iff.1 hold)).2, hvalue⟩

/-- A reader who has the earlier snapshot and makes the changes has the later one, and keeps what
the later one leaves out. -/
theorem get?_replay_between (core : Nat) (previous : Option Snapshot) (next : Snapshot)
    (name : Text) :
    (Change.replay (previous.getD Assoc.empty) (between core previous next).changes).get? name =
      (next.get? name).or ((previous.getD Assoc.empty).get? name) := by
  cases hnext : next.get? name with
  | none =>
    rw [Option.none_or]
    apply Change.get?_replay_of_not_mem
    exact fun h => Assoc.get?_eq_none_iff.1 hnext (Change.mem_keys_of_mem_against h)
  | some value =>
    have hprevious : (previous.getD Assoc.empty).Within (previous.getD Assoc.empty) :=
      fun _ _ h => h
    exact (replay_between core next hprevious).2 name value hnext

/-- The order of the entries of the earlier snapshot does not matter. -/
theorem between_eq_of_perm {s s' : Snapshot} (core : Nat) (next : Snapshot)
    (h : s.entries.Perm s'.entries) : between core (some s) next = between core (some s') next := by
  have hof : ∀ name value, Change.of? s name value = Change.of? s' name value := by
    intro name value
    rw [Change.of?, Change.of?, Assoc.get?_eq_of_perm h]
  simp only [between, Option.getD_some, hof]

/-- The text of a block tells the core and the changes, and no other core or changes have the same
text. The changes are those of the registers of the later snapshot that the earlier one does not
have, shown as new, and of those that it has with another value, shown with that value; each once,
in the order of the later snapshot, and counted by their kind. Made in the earlier snapshot they
give every register of the later one its value. How the earlier one is ordered does not matter. -/
theorem between_decoded (core : Nat) (previous : Option Snapshot) (next : Snapshot)
    (hprevious : ∀ s ∈ previous, s.IsWorded) (hnext : next.IsWorded) :
    let block := between core previous next
    let before := previous.getD Assoc.empty
    (decode? block.render = some ⟨core, block.changes⟩ ∧
      ∀ b : Block, b.IsWorded → b.render = block.render → b = ⟨core, block.changes⟩) ∧
    (block.changes.map Change.name).Sublist (next.entries.map Prod.fst) ∧
    (block.changes.map Change.name).Nodup ∧
    (∀ name value, Change.new name value ∈ block.changes ↔
      (name, value) ∈ next.entries ∧ before.get? name = none) ∧
    (∀ name old value, Change.changed name old value ∈ block.changes ↔
      (name, value) ∈ next.entries ∧ before.get? name = some old ∧ old ≠ value) ∧
    (block.newCount = next.entries.countP fun e => (before.get? e.1).isNone) ∧
    (block.changedCount =
      next.entries.countP fun e => (before.get? e.1).any fun old => old ≠ e.2) ∧
    (∀ name, (Change.replay before block.changes).get? name =
      (next.get? name).or (before.get? name)) ∧
    ∀ s s', previous = some s → s'.entries.Perm s.entries →
      between core (some s') next = block := by
  intro block before
  have hworded : block.IsWorded := isWorded_between core hprevious hnext
  have hsublist : (block.changes.map Change.name).Sublist (next.entries.map Prod.fst) :=
    Change.names_against_sublist before next.entries
  have hdecode : decode? block.render = some block := decode?_render hworded
  refine ⟨⟨hdecode, fun b hb hrender => ?_⟩, hsublist, hsublist.nodup next.nodup_keys,
    fun _ _ => Change.new_mem_against_iff, fun _ _ _ => Change.changed_mem_against_iff,
    Change.countP_isNew_against before next.entries,
    Change.countP_not_isNew_against before next.entries,
    get?_replay_between core previous next, ?_⟩
  · -- what the text is read as cannot be two blocks
    rw [← hrender, decode?_render hb] at hdecode
    exact Option.some.inj hdecode
  · rintro s s' rfl hperm
    exact between_eq_of_perm core next hperm

/-- A snapshot with a register that is named like a sign and has the other sign as its value. -/
def signs : Snapshot :=
  Assoc.ofList [(Text.of "pc", Text.of "1"), (Text.of "=", Text.of "->")]

/-- A later one, with more of them. -/
def moreSigns : Snapshot :=
  Assoc.ofList [(Text.of "->", Text.of "="), (Text.of "=", Text.of "="),
    (Text.of "pc", Text.of "1"), (Text.of "Core", Text.of "0:")]

/-- The signs between names and values are told from the names and values. -/
theorem between_decoded_of_signs :
    let text := Text.of "Core 7:\n-> = =\n= = -> -> =\nCore = 0:\n\n"
    let changes := [.new (Text.of "->") (Text.of "="),
      .changed (Text.of "=") (Text.of "->") (Text.of "="),
      .new (Text.of "Core") (Text.of "0:")]
    signs.IsWorded ∧ moreSigns.IsWorded ∧
      between 7 (some signs) moreSigns = ⟨7, changes⟩ ∧
      (between 7 (some signs) moreSigns).render = text ∧
      decode? text = some ⟨7, changes⟩ ∧
      (between 7 (some signs) moreSigns).newCount = 2 ∧
      (Change.replay signs changes).get? (Text.of "=") = some (Text.of "=") := by
  intro text changes
  have hsigns : signs.IsWorded := by decide +kernel
  have hmore : moreSigns.IsWorded := by decide +kernel
  have hblock : between 7 (some signs) moreSigns = ⟨7, changes⟩ := by decide +kernel
  have htext : (between 7 (some signs) moreSigns).render = text := by decide +kernel
  obtain ⟨⟨hdecode, -⟩, -, -, -, -, hnew, -, hreplay, -⟩ :=
    between_decoded 7 (some signs) moreSigns (by simpa using hsigns) hmore
  rw [htext, hblock] at hdecode
  refine ⟨hsigns, hmore, hblock, htext, hdecode, ?_, ?_⟩
  · rw [hnew]
    decide +kernel
  · rw [hblock] at hreplay
    exact (hreplay (Text.of "=")).trans (by decide +kernel)

end Block

end HartTimeline
