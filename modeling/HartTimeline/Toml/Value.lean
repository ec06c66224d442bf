import HartTimeline.Text.Charset

/-!
# TOML values and tables

A table remembers how it came about, because that decides which later statements may add to it:
a table written inline is complete, one that dotted keys made takes further dotted keys, one that
only headers of its subtables imply may still get a header of its own. No key stands twice.
-/

namespace HartTimeline.Toml

/-- How a table came about. -/
inductive Origin
  | inline
  | header
  | implied
  | dotted
deriving DecidableEq, Repr

/-- A TOML value. Floats and dates are kept as they are written. -/
inductive Value
  | string (t : Text)
  | integer (n : Int)
  | float (written : Text)
  | boolean (b : Bool)
  | dateTime (written : Text)
  | array (items : List Value)
  | table (origin : Origin) (entries : List (Text × Value))
  | tables (earlier : List (List (Text × Value))) (last : List (Text × Value))

/-- The entries of a table in order. -/
abbrev Entries := List (Text × Value)

namespace Entries

/-- The entries with what stands under a key replaced, or added at the end; `f` gets what stood
there and may refuse. -/
def alter (key : Text) (f : Option Value → Option Value) : Entries → Option Entries
  | [] => (f none).map fun v => [(key, v)]
  | (key', v) :: rest =>
    if key' = key then (f (some v)).map fun v => (key', v) :: rest
    else (alter key f rest).map fun rest => (key', v) :: rest

/-- The entries with a value under a dotted key, given as the path and the last name. Only tables
made by dotted keys are entered, and nothing is overwritten. -/
def assign (value : Value) : List Text → Text → Entries → Option Entries
  | [], key, es => alter key (fun
      | none => some value
      | some _ => none) es
  | name :: path, key, es => alter name (fun
      | none => (assign value path key []).map (.table .dotted)
      | some (.table .dotted inner) => (assign value path key inner).map (.table .dotted)
      | some _ => none) es

/-- The entries with the table changed that a header's path leads to. Missing tables on the way are
implied; of an array of tables the last one is meant. -/
def within (f : Entries → Option Entries) : List Text → Entries → Option Entries
  | [], es => f es
  | name :: path, es => alter name (fun
      | none => (within f path []).map (.table .implied)
      | some (.table .inline _) => none
      | some (.table origin inner) => (within f path inner).map (.table origin)
      | some (.tables earlier last) => (within f path last).map (.tables earlier)
      | some _ => none) es

/-- The entries with a table opened by its own header. -/
def openTable (path : List Text) (key : Text) : Entries → Option Entries :=
  within (alter key fun
    | none => some (.table .header [])
    | some (.table .implied inner) => some (.table .header inner)
    | some _ => none) path

/-- The entries with one more table in an array of tables. -/
def openArrayTable (path : List Text) (key : Text) : Entries → Option Entries :=
  within (alter key fun
    | none => some (.tables [] [])
    | some (.tables earlier last) => some (.tables (earlier ++ [last]) [])
    | some _ => none) path

end Entries

end HartTimeline.Toml
