import HartTimeline.Snapshot
import HartTimeline.Text.Decimal

/-!
# Diff blocks

A snapshot is shown as what changed since the same core's snapshot before it: registers that were
not there with their value, registers with another value with both, and nothing for the rest.
-/

namespace HartTimeline

/-- How one register differs from the snapshot before. -/
inductive Change
  | new (name value : Text)
  | changed (name old value : Text)
deriving DecidableEq, Repr

namespace Change

/-- The register that differs. -/
def name : Change → Text
  | new n _ => n
  | changed n _ _ => n

/-- Its value from now on. -/
def value : Change → Text
  | new _ v => v
  | changed _ _ v => v

/-- Whether the register was not there before. -/
def isNew : Change → Bool
  | new .. => true
  | changed .. => false

/-- The change as a line of text. -/
def render : Change → Text
  | new n v => n ++ Text.of " = " ++ v ++ ['\n']
  | changed n old v => n ++ Text.of " = " ++ old ++ Text.of " -> " ++ v ++ ['\n']

/-- How a register with a value differs from a snapshot before, if it does. -/
def of? (previous : Snapshot) (name value : Text) : Option Change :=
  match previous.get? name with
  | none => some (new name value)
  | some old => if old = value then none else some (changed name old value)

end Change

/-- The changes of one core's registers from one snapshot to the next. -/
structure Block where
  core : Nat
  changes : List Change
deriving DecidableEq, Repr

namespace Block

/-- The block that takes a core from a snapshot to the next one. Without a snapshot before, every
register is new. -/
def between (core : Nat) (previous : Option Snapshot) (next : Snapshot) : Block where
  core := core
  changes := next.entries.filterMap fun e => Change.of? (previous.getD Assoc.empty) e.1 e.2

/-- The number of registers that were not there before. -/
def newCount (b : Block) : Nat :=
  b.changes.countP Change.isNew

/-- The number of registers with another value than before. -/
def changedCount (b : Block) : Nat :=
  b.changes.countP fun c => !c.isNew

/-- The line that opens a core's block. -/
def header (core : Nat) : Text :=
  Text.of "Core " ++ Text.decimal core ++ Text.of ":\n"

/-- The block as text, closed by an empty line. -/
def render (b : Block) : Text :=
  header b.core ++ b.changes.flatMap Change.render ++ ['\n']

end Block

/-! ## Baselines -/

/-- The latest snapshot of every tracked core, if it has had one. -/
structure Baselines where
  latest : List (Option Snapshot)
deriving DecidableEq

namespace Baselines

/-- No snapshot yet on any of the tracked cores. -/
def initial (cores : Nat) : Baselines :=
  ⟨List.replicate cores none⟩

/-- The number of tracked cores. -/
def cores (b : Baselines) : Nat :=
  b.latest.length

/-- The latest snapshot of a core. -/
def get? (b : Baselines) (core : Nat) : Option Snapshot :=
  b.latest[core]?.join

/-- The baselines with a core's snapshot replaced; an untracked core changes nothing. -/
def set (b : Baselines) (core : Nat) (s : Snapshot) : Baselines :=
  ⟨b.latest.set core (some s)⟩

@[simp] theorem cores_initial (n : Nat) : (initial n).cores = n := by simp [cores, initial]

@[simp] theorem cores_set (b : Baselines) (core : Nat) (s : Snapshot) :
    (b.set core s).cores = b.cores := by simp [cores, set]

@[simp] theorem get?_initial (n core : Nat) : (initial n).get? core = none := by
  simp only [get?, initial, List.getElem?_replicate]
  split <;> rfl

/-- A tracked core has the snapshot that was set, and the others keep theirs. -/
theorem get?_set {b : Baselines} {core : Nat} (h : core < b.cores) (s : Snapshot) (core' : Nat) :
    (b.set core s).get? core' = if core = core' then some s else b.get? core' := by
  have hlt : core < b.latest.length := h
  by_cases he : core = core'
  · subst he
    simp [get?, set, hlt]
  · simp [get?, set, he]

end Baselines

end HartTimeline
