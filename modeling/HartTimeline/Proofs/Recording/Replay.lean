import HartTimeline.Proofs.Diff.Decoding
import HartTimeline.Proofs.Recording.Streams

/-!
# Replaying a core's stream

The stream of a core is read back as its blocks and the blocks are replayed. Snapshots of other
cores, dropped ones and trace lines leave no trace in this: the blocks of a core are the chain of
its own snapshots.

Main statements: `blocksOf_entries`, the blocks of a core in the timeline, and
`replay_of_core_stream`, what a reader of the stream's text holds after each of them.
-/

namespace HartTimeline

namespace Recording

open Text (IsWord)
open Timeline (blocksOf)

/-- The lines that close a snapshot of a core, in order. -/
def closingsOf (log : Recording) (core : Int) : List Nat :=
  (List.range log.length).filter (log.closesFor core)

/-! ## Names and values are words -/

variable {log : Recording} {cores k : Nat} {e : Register}

theorem isWord_of_mem_registers {text : Text} (h : e ∈ registers text) :
    IsWord e.1 ∧ IsWord e.2 := by
  rw [registers] at h
  split at h
  · cases h
  · cases hp : Line.pairUp? (Text.words text) with
    | none => simp [hp] at h
    | some ps =>
      rw [hp, Option.getD_some] at h
      have hwords : ∀ w ∈ [e.1, e.2], w ∈ Text.words text := by
        intro w hw
        rw [Line.pairUp?_eq_some_iff.1 hp]
        exact List.mem_flatMap.2 ⟨e, h, hw⟩
      exact ⟨Text.isWord_of_mem_words (hwords e.1 (by simp)),
        Text.isWord_of_mem_words (hwords e.2 (by simp))⟩

theorem isWord_of_mem_gathered (h : e ∈ log.gathered k) : IsWord e.1 ∧ IsWord e.2 := by
  obtain ⟨text, -, he⟩ := List.mem_flatMap.1 h
  exact isWord_of_mem_registers he

theorem isWord_of_mem_snapshot (h : e ∈ (log.snapshot k).entries) : IsWord e.1 ∧ IsWord e.2 := by
  unfold snapshot at h
  rw [Assoc.entries_ofList] at h
  obtain ⟨name, -, hvalue⟩ := List.mem_filterMap.1 h
  obtain ⟨value, hlast, rfl⟩ := Option.map_eq_some_iff.1 hvalue
  exact isWord_of_mem_gathered (Assoc.mem_of_lastValue? hlast)

/-- The blocks that are due can be read back. -/
theorem isWorded_block (log : Recording) (core k : Nat) : (log.block core k).IsWorded := by
  have hsnapshot : ∀ k, (log.snapshot k).IsWorded := fun k _ => isWord_of_mem_snapshot
  apply Block.isWorded_between core _ (hsnapshot k)
  intro s hs
  obtain ⟨j, -, rfl⟩ := Option.map_eq_some_iff.1 hs
  exact hsnapshot j

/-- So can all entries, as long as the lines are lines. -/
theorem isReadable_of_entryAt? {entry : Entry} (hlines : ∀ text ∈ log, '\n' ∉ text)
    (h : log.entryAt? cores k = some entry) : entry.IsReadable := by
  rcases entryAt?_cases h with ⟨text, -, ht, htrace, -, -, rfl⟩ | ⟨core, -, -, rfl⟩
  · exact ⟨htrace, hlines text (List.mem_of_getElem? ht)⟩
  · exact log.isWorded_block core k

/-! ## The blocks of a core -/

/-- A line gives a block of a core if it closes a snapshot of that core, and no block else. -/
theorem blocksOf_entryAt? {core : Nat} (hcore : core < cores) (log : Recording) (k : Nat) :
    blocksOf core (log.entryAt? cores k).toList =
      if log.closesFor core k then [log.block core k] else [] := by
  cases ht : log[k]? with
  | none => simp [entryAt?, ht, closesFor, closes]
  | some text =>
    cases hc : log.closes k with
    | true =>
      rw [entryAt?_of_closes ht hc, closesFor, hc, Bool.true_and]
      cases hattributed : log.core? k with
      | none => simp
      | some core' =>
        rw [Option.bind_some]
        cases hn : core'.toNat? with
        | none =>
          -- a core without a natural number is none of the tracked ones
          have hne : core' ≠ core := fun e => by simp [e, Int.toNat?] at hn
          simp [hne]
        | some n =>
          have hn' : core' = n := Int.mem_toNat?.1 hn
          by_cases he : n = core
          · subst he
            simp [hn', hcore, block, Block.between]
          · have hne : (n : Int) ≠ core := by omega
            by_cases hlt : n < cores <;> simp [hn', hlt, he, hne, block, Block.between]
    | false =>
      rw [closesFor, hc, Bool.false_and, if_neg (by decide)]
      cases htrace : Line.isTrace text with
      | false => rw [entryAt?_of_not_closes ht htrace hc]; rfl
      | true =>
        simp only [entryAt?, ht, htrace, Option.bind_some, if_true]
        split
        · rfl
        · split <;> rfl

/-- The blocks of a core are the chain of its snapshots, whatever comes between them. -/
theorem blocksOf_entries {core : Nat} (hcore : core < cores) (log : Recording) (k : Nat) :
    blocksOf core ((List.range k).filterMap (log.entryAt? cores)) =
      Block.chain core none (((List.range k).filter (log.closesFor core)).map log.snapshot) := by
  induction k with
  | zero => rfl
  | succ k ih =>
    have hone : [k].filterMap (log.entryAt? cores) = (log.entryAt? cores k).toList := by
      cases h : log.entryAt? cores k <;> simp [h]
    rw [List.range_succ, List.filterMap_append, hone, Timeline.blocksOf_append, ih,
      blocksOf_entryAt? hcore, List.filter_append, List.map_append]
    cases hc : log.closesFor core k with
    | false => simp [hc]
    | true =>
      -- the block is written against the snapshot that is last in the chain so far
      have hlast : ((List.range k).filter (log.closesFor core)).getLast? =
          log.previous? k core := rfl
      rw [if_pos rfl, List.filter_cons_of_pos hc, List.filter_nil, List.map_cons, List.map_nil,
        Block.chain_concat, List.getLast?_map, hlast, Option.or_none, block]

/-- What is read from the text of a core's stream. -/
theorem readBlocks?_coreStream {r : Run} {core : Nat} (hcore : core < cores)
    (hlines : ∀ text ∈ log, '\n' ∉ text) (hreads : Reads cores log log.length r) :
    readBlocks? core (r.timeline.coreStream core) =
      some ((Block.chain core none ((log.closingsOf core).map log.snapshot)).map
        Block.changes) := by
  unfold Timeline.coreStream
  rw [readBlocks?_render, Timeline.blocksOf_filter, hreads.entries,
    blocksOf_entries hcore, closingsOf]
  intro entry hentry
  rw [hreads.entries] at hentry
  obtain ⟨k, -, hk⟩ := List.mem_filterMap.1 (List.mem_filter.1 hentry).1
  exact isReadable_of_entryAt? hlines hk

/-! ## Replay -/

open Change (replay)

/-- The stream of a core can be replayed. Its text is read back as one block for each snapshot that
was closed for the core, and a reader who starts with nothing holds, at every old value that is
shown, exactly that value; after each block, every register of its snapshot with the snapshot's
value, so that a register left out by the block has had that value before it; and never a register
that was in no snapshot of the core. -/
theorem replay_of_core_stream (cores : Nat) (skipBlank : Bool) (log : Text) (report : Report)
    (h : Report.ofLog cores skipBlank log = .ok report) (core : Nat) (hcore : core < cores) :
    ∃ stream blocks, report.timeline.coreStream? core = some stream ∧
      readBlocks? core stream = some blocks ∧
      blocks.length = (closingsOf (Text.lines log) core).length ∧
      (∀ before name old value rest,
        blocks.flatten = before ++ .changed name old value :: rest →
          (replay Assoc.empty before).get? name = some old ∧ old ≠ value) ∧
      (∀ i k, (closingsOf (Text.lines log) core)[i]? = some k → ∀ name value,
        Assoc.lastValue? (gathered (Text.lines log) k) name = some value →
          (replay Assoc.empty (blocks.take (i + 1)).flatten).get? name = some value ∧
          ((∀ block ∈ blocks[i]?, ∀ c ∈ block, c.name ≠ name) →
            (replay Assoc.empty (blocks.take i).flatten).get? name = some value)) ∧
      (∀ before, before <+: blocks.flatten → ∀ name value,
        (replay Assoc.empty before).get? name = some value →
          ∃ k ∈ closingsOf (Text.lines log) core,
            name ∈ (gathered (Text.lines log) k).map Prod.fst) := by
  obtain ⟨-, r, hreads, hcores, rfl⟩ := exists_run_of_ofLog h
  have htracked : core < r.timeline.cores := hcores.symm ▸ hcore
  have hread := readBlocks?_coreStream hcore (fun _ => Text.feed_not_mem_of_mem_lines) hreads
  -- from here on only the core's snapshots matter, and no other line of the log
  generalize hss : (closingsOf (Text.lines log) core).map (snapshot (Text.lines log)) = ss at hread
  refine ⟨_, _, if_pos htracked, hread, ?_, ?_, ?_, ?_⟩
  · rw [List.length_map, Block.length_chain, ← hss, List.length_map]
  · intro before name old value rest hsplit
    have hfit := Block.allFit_chain core ss (Snapshot.within_empty Assoc.empty)
    rw [← Block.flatten_map_changes, hsplit, Change.allFit_append] at hfit
    exact hfit.2.1
  · intro i k hk name value hvalue
    have hs : ss[i]? = some (snapshot (Text.lines log) k) := by
      rw [← hss, List.getElem?_map, hk, Option.map_some]
    have hafter : (replay Assoc.empty (Block.shown ((Block.chain core none ss).take (i + 1)))).get?
        name = some value := by
      apply Block.within_replay_chain (Snapshot.within_empty _) hs
      rwa [snapshot, Assoc.get?_ofList]
    rw [← List.map_take, ← List.map_take, Block.flatten_map_changes, Block.flatten_map_changes]
    refine ⟨hafter, fun homitted => ?_⟩
    rw [← Block.get?_replay_take_succ]
    · exact hafter
    · intro b hb hmem
      obtain ⟨c, hc, hcname⟩ := List.mem_map.1 hmem
      exact homitted b.changes (by rw [List.getElem?_map, hb, Option.map_some]; rfl) c hc hcname
  · rintro before ⟨rest, hrest⟩ name value hget
    have hname := Change.mem_of_get?_replay hget
    have hshown : name ∈ (Block.shown (Block.chain core none ss)).map Change.name := by
      rw [← Block.flatten_map_changes, ← hrest, List.map_append]
      exact List.mem_append_left _ hname
    obtain ⟨s, hs, hkey⟩ := Block.exists_of_mem_shown_chain hshown
    rw [← hss] at hs
    obtain ⟨k, hk, rfl⟩ := List.mem_map.1 hs
    refine ⟨k, hk, ?_⟩
    rwa [snapshot, Assoc.keys_ofList, Assoc.mem_firstKeys] at hkey

/-- A log in which a register of the first core is missing from one snapshot and there again in the
next, followed by a snapshot of the second core. -/
def returningRegister : Text :=
  Text.of ("mhartid 1\npc 10\nsp 5\npc 14\nmhartid 1\npc 18\nmhartid 1 sp 5\n" ++
    "pc 1c\nmhartid 2\npc 20\n")

/-- A reader of the first core's three blocks has the register in the end, and the program counter
of the last snapshot. -/
theorem replay_of_returningRegister :
    ∃ report stream blocks, Report.ofLog 2 false returningRegister = .ok report ∧
      report.timeline.coreStream? 0 = some stream ∧ readBlocks? 0 stream = some blocks ∧
      blocks.length = 3 ∧
      (replay Assoc.empty (blocks.take 3).flatten).get? (Text.of "sp") = some (Text.of "5") ∧
      (replay Assoc.empty (blocks.take 3).flatten).get? (Text.of "pc") = some (Text.of "18") := by
  have hok : (Report.ofLog 2 false returningRegister).isOk = true := by decide +kernel
  cases h : Report.ofLog 2 false returningRegister with
  | error fault => rw [h] at hok; cases hok
  | ok report =>
    obtain ⟨stream, blocks, hstream, hread, hlength, -, hafter, -⟩ :=
      replay_of_core_stream 2 false _ report h 0 (by decide)
    have hclosings : closingsOf (Text.lines returningRegister) 0 = [3, 5, 7] := by decide +kernel
    have hlast := hafter 2 7 (by rw [Int.ofNat_zero, hclosings]; rfl)
    refine ⟨report, stream, blocks, rfl, hstream, hread, ?_, ?_, ?_⟩
    · rw [hlength, Int.ofNat_zero, hclosings]
      rfl
    · exact (hlast _ _ (by decide +kernel)).1
    · exact (hlast _ _ (by decide +kernel)).1

end Recording

end HartTimeline
