import HartTimeline.Proofs.Recording.Extraction
import HartTimeline.Proofs.Run.Agreement
import HartTimeline.Proofs.Run.Audit
import HartTimeline.Proofs.Run.Buffers

/-!
# What a run represents

The parts of a run fit together in every state that lines can lead to, rejected ones among them:
each tracked core has a stream, a place for a baseline and a row of counters; the open snapshot is
there as soon as a register line has come; the baseline of a core is the last snapshot of the
core that was closed without a fault; and the buffers that are filled along with the run hold its
streams.

Main statements: `Closed.after`, the baselines and the blocks by the snapshots that were closed, and
`represents_after`, all that holds of a run together.
-/

namespace HartTimeline

/-! ## Snapshots that lines can make -/

namespace Assoc

variable {α β : Type} [DecidableEq α]

theorem entries_insert_ne_nil (m : Assoc α β) (k : α) (v : β) : (m.insert k v).entries ≠ [] := by
  intro h
  have hkeys := keys_insert m k v
  rw [h, List.map_nil] at hkeys
  split at hkeys
  · rename_i hmem
    rw [← hkeys] at hmem
    cases hmem
  · simp at hkeys

/-- A map that entries were inserted into is not empty. -/
theorem entries_insertAll_ne_nil (m : Assoc α β) {es : List (α × β)} (h : es ≠ []) :
    (m.insertAll es).entries ≠ [] := by
  obtain ⟨es, e, rfl⟩ := List.eq_nil_or_concat' es |>.resolve_left h
  rw [insertAll_append]
  exact entries_insert_ne_nil _ e.1 e.2

end Assoc

/-- No name stands twice in a snapshot, and all names and values are words. -/
def Snapshot.IsOrderly (s : Snapshot) : Prop :=
  (s.entries.map Prod.fst).Nodup ∧ ∀ e ∈ s.entries, Text.IsWord e.1 ∧ Text.IsWord e.2

/-! ## The open snapshot -/

/-- A run holds a snapshot as soon as it has counted a register line, and never an empty one. -/
structure Gathering (r : Run) : Prop where
  idle : r.assembly.current? = none ↔ r.tally.registerLines = 0
  nonempty : ∀ s ∈ r.assembly.current?, s.entries ≠ []

namespace Gathering

open Recording (registers)

variable {r r' : Run} {text : Text}

theorem start (cores : Nat) (skipBlank : Bool) : Gathering (Run.start cores skipBlank) where
  idle := ⟨fun _ => rfl, fun _ => rfl⟩
  nonempty := by
    intro s hs
    cases hs

/-- A register line leaves a snapshot that holds its registers. -/
theorem of_registers {m : Snapshot} {count : Nat} (hr : registers text ≠ [])
    (hassembly : r'.assembly = ⟨some (m.insertAll (registers text))⟩)
    (hcount : r'.tally.registerLines = count + 1) : Gathering r' where
  idle := by simp [hassembly, hcount]
  nonempty := by
    intro s hs
    rw [hassembly, Option.mem_some_iff] at hs
    rw [← hs]
    exact Assoc.entries_insertAll_ne_nil m hr

theorem step (h : Gathering r) (index : Nat) (text : Text) : Gathering (r.step index text).1 := by
  have hspec := r.step_spec index text
  generalize r.step index text = out at hspec
  cases hspec with
  | badToken | traceOutOfRange | malformed | blank => exact ⟨h.idle, h.nonempty⟩
  | copied =>
    refine ⟨?_, h.nonempty⟩
    rw [Tally.registerLines_countTrace]
    exact h.idle
  | gathered some open_ => exact of_registers some rfl rfl
  | unattributed closed | snapshotOutOfRange closed | dropped closed | rendered closed =>
    exact of_registers (Run.registers_ne_nil_of_closedBy closed) rfl rfl

theorem after (h : Gathering r) (lines : List (Text × Nat)) : Gathering (r.after lines) :=
  Run.after_induction (fun _ index text h => h.step index text) h lines

end Gathering

/-! ## The snapshots that were closed -/

/-- The block that came of a line. -/
def Outcome.block? : Outcome → Option Block
  | rendered b => some b
  | _ => none

namespace Run

/-- The snapshots that a run shows as blocks while it is fed lines, each with its core. The snapshot
that a line closes is the one that the run holds before it. -/
def closings (r : Run) : List (Text × Nat) → List (Nat × Snapshot)
  | [] => []
  | line :: rest =>
    ((r.step line.2 line.1).2.block?.map fun b => (b.core, r.assembly.snapshot)).toList ++
      (r.step line.2 line.1).1.closings rest

@[simp] theorem closings_nil (r : Run) : r.closings [] = [] := rfl

theorem closings_concat (r : Run) (lines : List (Text × Nat)) (line : Text × Nat) :
    r.closings (lines ++ [line]) =
      r.closings lines ++ (((r.after lines).step line.2 line.1).2.block?.map fun b =>
        (b.core, (r.after lines).assembly.snapshot)).toList := by
  induction lines generalizing r with
  | nil => simp [closings]
  | cons first lines ih =>
    rw [List.cons_append, closings, closings, ih, List.append_assoc]
    rfl

/-- A line shows no block and leaves the baselines, or it shows the block of the open snapshot,
which is the baseline of its core from then on. -/
theorem step_block (r : Run) (index : Nat) (text : Text) :
    ((r.step index text).2.block? = none ∧ (r.step index text).1.baselines = r.baselines ∧
      (r.step index text).1.timeline.blocks = r.timeline.blocks) ∨
    ∃ b, (r.step index text).2.block? = some b ∧ b.core < r.cores ∧
      r.assembly.snapshot.core = .ok b.core ∧
      r.assembly.snapshot.contains counterRegister = true ∧
      (r.step index text).1.baselines = r.baselines.set b.core r.assembly.snapshot ∧
      (r.step index text).1.timeline.blocks = r.timeline.blocks ++ [b] := by
  have hspec := r.step_spec index text
  generalize r.step index text = out at hspec
  cases hspec with
  | copied => exact .inl ⟨rfl, rfl, Timeline.blocks_push_trace _ _ _⟩
  | rendered closed hart range diff =>
    subst diff
    exact .inr ⟨_, rfl, range, hart, (closedBy_eq_true_iff.1 closed).2, rfl,
      Timeline.blocks_push_block _ _⟩
  | _ => exact .inl ⟨rfl, rfl, rfl⟩

end Run

/-- What a run has kept of the snapshots that it has closed: the last one of every core, and a block
of each. They were given the core that they are filed under, and a program counter. -/
structure Closed (closings : List (Nat × Snapshot)) (r : Run) : Prop where
  attributed : ∀ c ∈ closings, c.1 < r.cores ∧ c.2.core = .ok c.1 ∧
    c.2.contains counterRegister = true
  latest : ∀ core < r.cores, r.baselines.get? core = Assoc.lastValue? closings core
  blocks : r.timeline.blocks.map Block.core = closings.map Prod.fst

namespace Closed

variable {closings : List (Nat × Snapshot)} {r : Run}

theorem start (cores : Nat) (skipBlank : Bool) : Closed [] (Run.start cores skipBlank) where
  attributed := by
    intro c hc
    cases hc
  latest := fun core _ => Baselines.get?_initial cores core
  blocks := rfl

theorem step (h : Closed closings r) (index : Nat) (text : Text) :
    Closed (closings ++ ((r.step index text).2.block?.map fun b =>
      (b.core, r.assembly.snapshot)).toList) (r.step index text).1 := by
  have hcores := (Run.step_fixed r index text).2.1
  rcases Run.step_block r index text with
    ⟨hnone, hbaselines, hblocks⟩ | ⟨b, hsome, hrange, hart, hcounter, hbaselines, hblocks⟩
  · rw [hnone, Option.map_none, Option.toList_none, List.append_nil]
    refine ⟨?_, ?_, ?_⟩
    · rw [hcores]
      exact h.attributed
    · rw [hcores, hbaselines]
      exact h.latest
    · rw [hblocks]
      exact h.blocks
  · rw [hsome, Option.map_some, Option.toList_some]
    refine ⟨?_, ?_, ?_⟩
    · rw [hcores]
      intro c hc
      rcases List.mem_append.1 hc with hold | hnew
      · exact h.attributed c hold
      · obtain rfl := List.mem_singleton.1 hnew
        exact ⟨hrange, hart, hcounter⟩
    · intro core hcore
      rw [hcores] at hcore
      rw [hbaselines, Baselines.get?_set hrange, Assoc.lastValue?_concat, h.latest core hcore]
    · rw [hblocks, List.map_append, List.map_append, h.blocks]
      rfl

/-- After any lines, accepted or not. -/
theorem after (cores : Nat) (skipBlank : Bool) (lines : List (Text × Nat)) :
    Closed ((Run.start cores skipBlank).closings lines)
      ((Run.start cores skipBlank).after lines) := by
  induction lines using List.reverseRecOn with
  | nil => exact start cores skipBlank
  | append_singleton lines line ih =>
    rw [Run.closings_concat, Run.after_concat]
    exact ih.step line.2 line.1

/-- The baseline of a core holds a program counter and the hart number of the core. -/
theorem of_get? (h : Closed closings r) {core : Nat} (hcore : core < r.cores) {s : Snapshot}
    (hs : r.baselines.get? core = some s) :
    s.contains counterRegister = true ∧ s.core = .ok core := by
  rw [h.latest core hcore] at hs
  obtain ⟨-, hart, hcounter⟩ := h.attributed (core, s) (Assoc.mem_of_lastValue? hs)
  exact ⟨hcounter, hart⟩

/-- A core has been shown a snapshot exactly if its row has counted one. -/
theorem snapshots_pos_iff (h : Closed closings r) (core : Nat) :
    0 < (CoreTally.ofEntries r.timeline.entries.toList core).snapshots ↔
      (Assoc.lastValue? closings core).isSome = true := by
  have hrow : (CoreTally.ofEntries r.timeline.entries.toList core).snapshots =
      r.timeline.blocks.countP fun b => b.core = core := List.countP_eq_length_filter.symm
  rw [hrow, List.countP_pos_iff, Assoc.isSome_lastValue?, ← h.blocks, List.mem_map]
  simp only [decide_eq_true_eq]

end Closed

/-! ## All of it together -/

/-- Every snapshot that lines can make is orderly. -/
theorem Recording.isOrderly_snapshot (log : Recording) (k : Nat) : (log.snapshot k).IsOrderly :=
  ⟨(log.snapshot k).nodup_keys, fun _ => isWord_of_mem_snapshot⟩

/-- All entries of a run belong to tracked cores or to none. -/
theorem Reads.isRouted {cores k : Nat} {log : Recording} {r : Run} (h : Reads cores log k r) :
    ∀ e ∈ r.timeline.entries.toList, e.IsRouted cores := by
  intro e he
  rw [h.entries] at he
  obtain ⟨k, -, hk⟩ := List.mem_filterMap.1 he
  exact Recording.isRouted_of_entryAt? hk

/-- The streams are made of the same parts: the stream of all entries has every part, and that of a
core those that belong to it. -/
theorem Timeline.exists_parts {t : Timeline} {cores : Nat}
    (h : ∀ e ∈ t.entries.toList, e.IsRouted cores) :
    ∃ parts : List (Text × Option Nat), (∀ part ∈ parts, ∀ core ∈ part.2, core < cores) ∧
      t.globalStream = parts.flatMap Prod.fst ∧
      ∀ core, t.coreStream core =
        (parts.filter fun part => part.2 = some core).flatMap Prod.fst := by
  refine ⟨t.entries.toList.map fun e => (e.render, e.core?), ?_, ?_, fun core => ?_⟩
  · intro part hpart core hcore
    obtain ⟨e, he, rfl⟩ := List.mem_map.1 hpart
    exact (h e he).lt hcore
  · rw [List.flatMap_map]
    rfl
  · rw [List.filter_map, List.flatMap_map]
    rfl

/-- What a run holds after some lines, in the course of which it has closed some snapshots and its
streams have been written into buffers. -/
structure Represents (cores : Nat) (lines : List (Text × Nat)) (closings : List (Nat × Snapshot))
    (buffers : StreamBuffers) (r : Run) : Prop where
  /-- Every tracked core has a stream, a place for a baseline and a row of counters. -/
  streams : r.timeline.coreStreams.length = cores ∧ buffers.perCore.length = cores
  places : r.baselines.latest.length = cores
  rows : r.tally.cores.map CoreTally.core = List.range cores
  /-- Nothing has been gathered before the first register line, and something from then on. -/
  idle : r.assembly.current? = none ↔ r.tally.registerLines = 0
  gathered : ∀ s ∈ r.assembly.current?, s.entries ≠ [] ∧ s.IsOrderly
  /-- A program counter is held as soon as a register line has given one. -/
  counter : r.assembly.snapshot.contains counterRegister = true ↔
    ∃ line ∈ lines, Recording.givesCounter line.1 = true
  /-- The baseline of a core is the last of its snapshots that was closed without a fault, and it is
  there as soon as one has been counted. -/
  latest : ∀ core < cores, r.baselines.get? core = Assoc.lastValue? closings core
  counted : ∀ core < cores, ∃ row, r.tally.cores[core]? = some row ∧
    ((r.baselines.get? core).isSome = true ↔ 0 < row.snapshots)
  baseline : ∀ core < cores, ∀ s ∈ r.baselines.get? core,
    s.contains counterRegister = true ∧ s.core = .ok core ∧ s.IsOrderly
  /-- The buffers hold the streams, and all of them are made of the same parts. -/
  held : r.timeline.globalStream = buffers.global ∧
    ∀ core, r.timeline.coreStream? core = buffers.core? core
  parts : ∃ parts : List (Text × Option Nat), (∀ part ∈ parts, ∀ core ∈ part.2, core < cores) ∧
    buffers.global = parts.flatMap Prod.fst ∧
    ∀ core < cores, buffers.core? core =
      some ((parts.filter fun part => part.2 = some core).flatMap Prod.fst)

namespace Represents

variable {cores : Nat} {lines : List (Text × Nat)} {closings : List (Nat × Snapshot)} {r : Run}

/-- The parts fit together because each of them is what the lines say. -/
theorem of_reads (hreads : Reads cores (lines.map Prod.fst) lines.length r) (haudited : Audited r)
    (hgathering : Gathering r) (hclosed : Closed closings r) (hstreams : r.timeline.cores = cores) :
    Represents cores lines closings (.ofTimeline r.timeline) r where
  streams := by
    have hlength : r.timeline.coreStreams.length = cores := by
      rw [Timeline.coreStreams, List.length_map, List.length_range, hstreams]
    exact ⟨hlength, hlength⟩
  places := hreads.tracked
  rows := by
    rw [haudited.rows, List.map_map, hreads.tracked]
    exact List.map_id _
  idle := hgathering.idle
  gathered := by
    intro s hs
    have hsnapshot : r.assembly.snapshot = s := by
      rw [Assembly.snapshot, Option.mem_def.1 hs, Option.getD_some]
    rw [hreads.assembly] at hsnapshot
    exact ⟨hgathering.nonempty s hs, hsnapshot ▸ Recording.isOrderly_snapshot _ _⟩
  counter := by
    rw [hreads.contains_counter (by simp), List.take_of_length_le (by simp), List.any_map,
      List.any_eq_true]
    rfl
  latest := by
    rw [← hreads.tracked]
    exact hclosed.latest
  counted := by
    rw [← hreads.tracked]
    intro core hcore
    refine ⟨CoreTally.ofEntries r.timeline.entries.toList core, ?_, ?_⟩
    · simp [haudited.rows, hcore]
    · rw [hclosed.latest core hcore, hclosed.snapshots_pos_iff]
  baseline := by
    intro core hcore s hs
    obtain ⟨hcounter, hart⟩ := hclosed.of_get? (hreads.tracked.symm ▸ hcore) hs
    rw [hreads.baselines core hcore] at hs
    obtain ⟨k, -, rfl⟩ := Option.map_eq_some_iff.1 hs
    exact ⟨hcounter, hart, Recording.isOrderly_snapshot _ k⟩
  held := ⟨rfl, fun core => (StreamBuffers.core?_ofTimeline r.timeline core).symm⟩
  parts := by
    obtain ⟨parts, htracked, hglobal, hcore⟩ := Timeline.exists_parts hreads.isRouted
    refine ⟨parts, htracked, hglobal, fun core hlt => ?_⟩
    rw [StreamBuffers.core?_ofTimeline, ← hcore core]
    exact if_pos (hstreams.symm ▸ hlt)

end Represents

/-- Whatever lines a run has been fed, and whichever of them it has rejected, its parts fit
together. Every tracked core has a stream, a place for a baseline and a row of counters of its own.
Nothing has been gathered as long as no register line has been counted, and from then on the open
snapshot is not empty; it holds a program counter as soon as a register line has given one. A core
has a baseline as soon as a snapshot of it has been counted, namely the last one that was closed
without a fault, which holds a program counter and the hart number of the core. Names stand once in
a snapshot, and names and values are words. The texts that have grown line by line, one for
everything and one for each core, are the streams of the run, and are made of the same parts. -/
theorem represents_after (cores : Nat) (skipBlank : Bool) (lines : List (Text × Nat)) :
    Represents cores lines ((Run.start cores skipBlank).closings lines)
      ((StreamBuffers.empty cores).after (Run.start cores skipBlank) lines)
      ((Run.start cores skipBlank).after lines) := by
  rw [StreamBuffers.after_empty]
  have hreads := Reads.after cores skipBlank lines lines.length (Nat.le_refl _)
  rw [List.take_length] at hreads
  exact .of_reads hreads ((Audited.start cores skipBlank).after lines)
    ((Gathering.start cores skipBlank).after lines) (Closed.after cores skipBlank lines)
    (Run.cores_after_start cores skipBlank lines).2

/-- Three snapshots, of which the second is of a core that is not tracked and the third of no hart.
-/
def twoRefused : List (Text × Nat) :=
  (["mhartid 1", "pc 10", "pc 14", "mhartid 5", "pc 18", "pc 1c"].map Text.of).zipIdx

/-- The snapshots that were refused have not become baselines and are in no buffer, and the run has
gone on. -/
theorem represents_after_of_twoRefused :
    let r := Run.start 1 false
    let first : Snapshot :=
      Assoc.ofList [(Text.of "mhartid", Text.of "1"), (Text.of "pc", Text.of "10")]
    r.outcomes twoRefused = [.taken, .taken, .rendered (Block.between 0 none first), .taken,
        .rejected (.coreOutOfRange 5 4 1), .rejected (.attribution 6 .missingHart)] ∧
      (r.after twoRefused).baselines.get? 0 = some first ∧ first.core = .ok 0 ∧
      ((StreamBuffers.empty 1).after r twoRefused).core? 0 =
        some (Text.of "Core 0:\nmhartid = 1\npc = 10\n\n") ∧
      (r.after twoRefused).tally.registerLines ≠ 0 ∧
      (r.after twoRefused).assembly.current? ≠ none := by
  intro r first
  have hrepresents := represents_after 1 false twoRefused
  have hclosings : r.closings twoRefused = [(0, first)] := by decide +kernel
  have hbaseline : (r.after twoRefused).baselines.get? 0 = some first := by
    rw [hrepresents.latest 0 (by decide), hclosings]
    rfl
  have hcount : (r.after twoRefused).tally.registerLines ≠ 0 := by decide +kernel
  have hbuffer := (hrepresents.held.2 0).symm
  refine ⟨?_, hbaseline, (hrepresents.baseline 0 (by decide) first hbaseline).2.1,
    hbuffer.trans ?_, hcount, ?_⟩
  · decide +kernel
  · decide +kernel
  · exact fun hidle => hcount (hrepresents.idle.1 hidle)

end HartTimeline
