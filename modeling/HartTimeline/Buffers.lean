import HartTimeline.Run

/-!
# Stream buffers

While a log is read, the streams are texts that grow: one for everything, and one for each tracked
core. What a line adds to them depends on the run that it is fed to, but not on what they hold.
-/

namespace HartTimeline

/-- The streams as texts, the global one and those of the tracked cores. -/
structure StreamBuffers where
  global : Text
  perCore : List Text
deriving DecidableEq

namespace StreamBuffers

/-- Streams without text. -/
def empty (cores : Nat) : StreamBuffers :=
  ⟨[], List.replicate cores []⟩

/-- The stream of a core, if it is tracked. -/
def core? (b : StreamBuffers) (core : Nat) : Option Text :=
  b.perCore[core]?

/-- A text at the end of the global stream, and of a core's stream if that core is tracked. -/
def push (b : StreamBuffers) (text : Text) (core? : Option Nat) : StreamBuffers where
  global := b.global ++ text
  perCore := match core? with
    | none => b.perCore
    | some core => b.perCore.modify core (· ++ text)

/-- A trace line goes to the global stream always, and to a core's stream only when it is
attributed. -/
def pushTrace (b : StreamBuffers) (text : Text) (core? : Option Nat) : StreamBuffers :=
  b.push (text ++ ['\n', '\n']) core?

/-- A diff block, given as its text, goes to the stream of its core as well. -/
def pushBlock (b : StreamBuffers) (core : Nat) (block : Text) : StreamBuffers :=
  b.push block (some core)

/-! ## What a line adds -/

/-- The streams after a trace line. -/
def takeTrace (b : StreamBuffers) (r : Run) (line : Nat) (text : Text) (core : Int) :
    StreamBuffers :=
  match Run.streamOf r.cores line core with
  | .error _ => b
  | .ok stream => b.pushTrace text stream

/-- The streams after a snapshot has been closed. -/
def close (b : StreamBuffers) (r : Run) (line : Nat) (s : Snapshot) : StreamBuffers :=
  match Run.streamOfSnapshot r.cores line s with
  | .error _ => b
  | .ok (_, none) => b
  | .ok (_, some core) => b.pushBlock core (Block.between core (r.baselines.get? core) s).render

/-- The streams after a line of a known kind. Register lines only add to them by closing a
snapshot. -/
def takeLine (b : StreamBuffers) (r : Run) (line : Nat) : Line → StreamBuffers
  | .trace text core => b.takeTrace r line text core
  | .single name value =>
    match r.assembly.single name value with
    | (_, none) => b
    | (_, some s) => b.close r line s
  | .multi _ => b
  | .blank => b
  | .malformed _ => b

/-- The streams after a line is fed to a run at a position counted from 0. -/
def step (b : StreamBuffers) (r : Run) (index : Nat) (text : Text) : StreamBuffers :=
  match Line.ofText r.skipBlank text with
  | .error _ => b
  | .ok kind => b.takeLine r (index + 1) kind

end StreamBuffers

end HartTimeline
