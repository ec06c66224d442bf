import HartTimeline.Snapshot

/-!
# The snapshot under assembly

Register lines are gathered into a snapshot until a line with nothing but the program counter
comes while the snapshot already holds one. That line closes the snapshot and opens the next one
with itself as the first entry. Lines with several registers never close anything.
-/

namespace HartTimeline

/-- The snapshot being gathered, if any register line has come since the start or the last
`finish`. -/
structure Assembly where
  current? : Option Snapshot
deriving DecidableEq

namespace Assembly

/-- Nothing gathered. -/
def idle : Assembly := ⟨none⟩

/-- What has been gathered, as a snapshot that may be empty. -/
def snapshot (a : Assembly) : Snapshot :=
  a.current?.getD Assoc.empty

/-- Whether a line with this register alone closes the snapshot. -/
def closes (a : Assembly) (name : Text) : Bool :=
  name = counterRegister && a.snapshot.contains counterRegister

/-- A line with one register: the assembly after it and the snapshot that it closed. -/
def single (a : Assembly) (name value : Text) : Assembly × Option Snapshot :=
  if a.closes name then
    (⟨some (Assoc.empty.insert name value)⟩, a.current?)
  else
    (⟨some (a.snapshot.insert name value)⟩, none)

/-- A line with several registers. -/
def multi (a : Assembly) (registers : List Register) : Assembly :=
  ⟨some (a.snapshot.insertAll registers)⟩

/-- The number of registers that are dropped when the input ends here. -/
def leftover (a : Assembly) : Nat :=
  a.snapshot.size

/-- The end of the input: nothing is gathered any more, and this many registers were dropped. -/
def finish (a : Assembly) : Assembly × Nat :=
  (idle, a.leftover)

end Assembly

end HartTimeline
