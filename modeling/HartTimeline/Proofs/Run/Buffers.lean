import HartTimeline.Buffers
import HartTimeline.Proofs.Run.After

/-!
# Buffers and timelines

The streams of a timeline are made from its entries. Kept as texts that grow line by line, they come
out the same: a line that adds an entry to the timeline adds its text to the buffers, and any other
line leaves both alone.

Main statements: `StreamBuffers.step_ofTimeline`, one line, and `StreamBuffers.after_empty`, any
lines, rejected ones included.
-/

namespace HartTimeline

namespace StreamBuffers

/-- The buffers that hold the streams of a timeline. -/
def ofTimeline (t : Timeline) : StreamBuffers :=
  ⟨t.globalStream, t.coreStreams⟩

theorem ofTimeline_empty (cores : Nat) : ofTimeline (.empty cores) = empty cores := by
  rw [ofTimeline, Timeline.coreStreams_empty]
  rfl

theorem core?_ofTimeline (t : Timeline) (core : Nat) :
    (ofTimeline t).core? core = t.coreStream? core :=
  Timeline.getElem?_coreStreams t core

/-! ## One entry -/

/-- An entry goes into the buffer of its core, if it has one. -/
theorem push_ofTimeline (t : Timeline) (e : Entry) :
    (ofTimeline t).push e.render e.core? = ofTimeline (t.push e) := by
  unfold ofTimeline
  rw [Timeline.globalStream_push, Timeline.coreStreams_push]
  cases h : e.core? <;> rfl

theorem pushTrace_ofTimeline (t : Timeline) (text : Text) (core? : Option Nat) :
    (ofTimeline t).pushTrace text core? = ofTimeline (t.push (.trace text core?)) :=
  push_ofTimeline t (.trace text core?)

theorem pushBlock_ofTimeline (t : Timeline) (block : Block) :
    (ofTimeline t).pushBlock block.core block.render = ofTimeline (t.push (.block block)) :=
  push_ofTimeline t (.block block)

/-! ## One line -/

variable (r : Run)

theorem takeTrace_ofTimeline (line : Nat) (text : Text) (core : Int) :
    (ofTimeline r.timeline).takeTrace r line text core =
      ofTimeline (r.takeTrace line text core).1.timeline := by
  rw [takeTrace, Run.takeTrace]
  cases Run.streamOf r.cores line core with
  | error fault => rfl
  | ok stream => exact pushTrace_ofTimeline r.timeline text stream

theorem close_ofTimeline (line : Nat) (s : Snapshot) :
    (ofTimeline r.timeline).close r line s = ofTimeline (r.close line s).1.timeline := by
  rw [close, Run.close]
  -- a snapshot adds nothing if its core cannot be told, or if it has none
  rcases Run.streamOfSnapshot r.cores line s with fault | ⟨core, _ | stream⟩
  · rfl
  · rfl
  · exact pushBlock_ofTimeline r.timeline (Block.between stream (r.baselines.get? stream) s)

theorem takeLine_ofTimeline (line : Nat) (text : Text) (kind : Line) :
    (ofTimeline r.timeline).takeLine r line kind =
      ofTimeline (r.takeLine line text kind).1.timeline := by
  cases kind with
  | trace text core => exact takeTrace_ofTimeline r line text core
  | single name value =>
    rw [takeLine, Run.takeLine, Run.takeSingle]
    -- the new assembly and the counters are no concern of the streams
    rcases r.assembly.single name value with ⟨assembly, _ | s⟩
    · rfl
    · exact close_ofTimeline { r with assembly, tally := r.tally.countRegisterLine } line s
  | multi _ | blank | malformed _ => rfl

/-- A line adds to the buffers of a run what it adds to the timeline. -/
theorem step_ofTimeline (index : Nat) (text : Text) :
    (ofTimeline r.timeline).step r index text = ofTimeline (r.step index text).1.timeline := by
  rw [step, Run.step]
  cases Line.ofText r.skipBlank text with
  | error reason => rfl
  | ok kind => exact takeLine_ofTimeline r.countLine (index + 1) text kind

/-! ## Many lines -/

/-- The streams after lines are fed to a run with their positions. -/
def after (b : StreamBuffers) (r : Run) : List (Text × Nat) → StreamBuffers
  | [] => b
  | line :: rest => (b.step r line.2 line.1).after (r.step line.2 line.1).1 rest

theorem after_ofTimeline (lines : List (Text × Nat)) :
    (ofTimeline r.timeline).after r lines = ofTimeline (r.after lines).timeline := by
  induction lines generalizing r with
  | nil => rfl
  | cons line lines ih =>
    rw [after, step_ofTimeline]
    exact ih (r.step line.2 line.1).1

/-- Buffers that are filled from the start of a run hold the streams of its timeline. -/
theorem after_empty (cores : Nat) (skipBlank : Bool) (lines : List (Text × Nat)) :
    (empty cores).after (Run.start cores skipBlank) lines =
      ofTimeline ((Run.start cores skipBlank).after lines).timeline := by
  rw [← ofTimeline_empty]
  exact after_ofTimeline (Run.start cores skipBlank) lines

end StreamBuffers

end HartTimeline
