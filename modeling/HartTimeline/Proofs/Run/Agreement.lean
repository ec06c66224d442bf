import HartTimeline.Proofs.Diff.Reading
import HartTimeline.Proofs.Run.Step

/-!
# Runs that agree on some cores

Two runs agree on some chosen cores if they have shown the same blocks of these cores and will write
the next ones against the same snapshots. Whatever they have shown of other cores does not matter.

Main statements: `Agree.settle`, runs that agree and show one more snapshot of a chosen core still
agree, and `agree_settle`, a run agrees with itself before it has shown a snapshot of another core.
-/

namespace HartTimeline

/-! ## Blocks of a timeline -/

namespace Timeline

/-- The blocks in the stream of all entries, in order. -/
def blocks (t : Timeline) : List Block :=
  t.entries.toList.filterMap Entry.block?

/-- The blocks in the stream of a core, in order. -/
def coreBlocks (t : Timeline) (core : Nat) : List Block :=
  (t.entries.toList.filter fun e => e.core? = some core).filterMap Entry.block?

@[simp] theorem blocks_push_trace (t : Timeline) (text : Text) (core? : Option Nat) :
    (t.push (.trace text core?)).blocks = t.blocks := by
  simp [blocks, Entry.block?]

@[simp] theorem blocks_push_block (t : Timeline) (b : Block) :
    (t.push (.block b)).blocks = t.blocks ++ [b] := by
  simp [blocks, Entry.block?]

/-- The blocks of a core are those in its stream. -/
theorem coreBlocks_eq (t : Timeline) (core : Nat) :
    t.coreBlocks core = t.blocks.filter fun b => b.core = core := by
  -- a block stands in the stream of its own core only
  have hself : ∀ b ∈ t.coreBlocks core, decide (b.core = core) = true := by
    intro b hb
    obtain ⟨e, he, hblock⟩ := List.mem_filterMap.1 hb
    cases e with
    | trace text core? => cases hblock
    | block b' =>
      cases hblock
      simpa [Entry.core?] using (List.mem_filter.1 he).2
  rw [← List.filter_eq_self.2 hself]
  exact blocksOf_filter core t.entries.toList

end Timeline

namespace Run

variable {chosen : Nat → Bool} {r r' r₁ : Run} {core : Nat}

/-! ## What a run has shown -/

/-- The run with its open snapshot shown as a block of a core, if it is given one. -/
def settle (r : Run) : Option Nat → Run
  | none => r
  | some core =>
    { r with
      baselines := r.baselines.set core r.assembly.snapshot
      timeline := r.timeline.push
        (.block (Block.between core (r.baselines.get? core) r.assembly.snapshot)) }

/-- Two runs have shown the same blocks. -/
structure Alongside (r r' : Run) : Prop where
  skipBlank : r'.skipBlank = r.skipBlank
  baselines : r'.baselines = r.baselines
  blocks : r'.timeline.blocks = r.timeline.blocks

/-- Two runs have shown the same blocks of the chosen cores. -/
structure Agree (chosen : Nat → Bool) (r r' : Run) : Prop where
  skipBlank : r'.skipBlank = r.skipBlank
  cores : r'.cores = r.cores
  baselines : ∀ core, chosen core = true → r'.baselines.get? core = r.baselines.get? core
  blocks : (r'.timeline.blocks.filter fun b => chosen b.core) =
    r.timeline.blocks.filter fun b => chosen b.core

/-- A run has shown blocks of the chosen cores only. -/
def Confined (chosen : Nat → Bool) (r : Run) : Prop :=
  ∀ b ∈ r.timeline.blocks, chosen b.core = true

theorem Alongside.agree (h : Alongside r r') : Agree chosen r r' where
  skipBlank := h.skipBlank
  cores := by rw [cores, cores, h.baselines]
  baselines := fun _ _ => by rw [h.baselines]
  blocks := by rw [h.blocks]

theorem Alongside.confined (h : Alongside r r') (hr : Confined chosen r) : Confined chosen r' := by
  unfold Confined
  rw [h.blocks]
  exact hr

namespace Agree

theorem refl (r : Run) : Agree chosen r r :=
  ⟨rfl, rfl, fun _ _ => rfl, rfl⟩

theorem symm (h : Agree chosen r r') : Agree chosen r' r where
  skipBlank := h.skipBlank.symm
  cores := h.cores.symm
  baselines := fun core hcore => (h.baselines core hcore).symm
  blocks := h.blocks.symm

theorem trans (h : Agree chosen r r₁) (h' : Agree chosen r₁ r') : Agree chosen r r' where
  skipBlank := h'.skipBlank.trans h.skipBlank
  cores := h'.cores.trans h.cores
  baselines := fun core hcore => (h'.baselines core hcore).trans (h.baselines core hcore)
  blocks := h'.blocks.trans h.blocks

/-- Two runs that agree and show the same snapshot of a chosen core agree after it: they show it
against the same snapshot. -/
theorem settle (h : Agree chosen r r')
    (hassembly : r'.assembly.snapshot = r.assembly.snapshot) (hcore : chosen core = true)
    (hrange : core < r.cores) : Agree chosen (r.settle (some core)) (r'.settle (some core)) := by
  have hrange' : core < r'.cores := h.cores.symm ▸ hrange
  have hbefore := h.baselines core hcore
  refine ⟨h.skipBlank, ?_, ?_, ?_⟩
  · exact (Baselines.cores_set _ _ _).trans (h.cores.trans (Baselines.cores_set _ _ _).symm)
  · intro other hother
    rw [Run.settle, Run.settle, Baselines.get?_set hrange, Baselines.get?_set hrange', hassembly,
      h.baselines other hother]
  · rw [Run.settle, Run.settle, Timeline.blocks_push_block, Timeline.blocks_push_block,
      List.filter_append, List.filter_append, h.blocks, hbefore, hassembly]

end Agree

/-- What is shown of other cores is nothing to the chosen ones. -/
theorem agree_settle {core? : Option Nat} (hcore : core?.any chosen = false)
    (hrange : ∀ core ∈ core?, core < r.cores) : Agree chosen r (r.settle core?) := by
  cases core? with
  | none => exact .refl r
  | some core =>
    rw [Option.any_some] at hcore
    refine ⟨rfl, Baselines.cores_set _ _ _, ?_, ?_⟩
    · intro other hother
      have hne : core ≠ other := by
        rintro rfl
        rw [hcore] at hother
        cases hother
      rw [settle, Baselines.get?_set (hrange core rfl), if_neg hne]
    · rw [settle, Timeline.blocks_push_block, List.filter_append]
      simp [Block.between, hcore]

theorem confined_settle (h : Confined chosen r) (hcore : chosen core = true) :
    Confined chosen (r.settle (some core)) := by
  intro b hb
  rw [settle, Timeline.blocks_push_block, List.mem_append, List.mem_singleton] at hb
  rcases hb with hb | rfl
  · exact h b hb
  · exact hcore

end Run

end HartTimeline
