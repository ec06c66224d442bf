import HartTimeline.Log.Pattern
import HartTimeline.Log.Setting
import HartTimeline.Text.Bytes

/-!
# Log filters

Which events are shown is set by a list of directives separated by commas. A directive has up to
three parts, in this order: the start of a target; in brackets, the name of a span of work and in
braces within it the name of a field, perhaps with its value; and after an equals sign a level. A
level alone is for everything. The program has no spans of work, so that a directive for a span, or
for the value of a field, selects no event at all.

Of the directives that select an event the longest target decides, then one with a field before one
without, then the field that is last in order, then the directive that is given last.

The program reads its log setting as a filter by `LogFilter.reader`.
-/

namespace HartTimeline

/-- A limit on the rank of the events whose target starts with a text and that have a field. -/
structure LogDirective where
  target : Text
  field : Option Text
  spansOnly : Bool
  limit : Nat
deriving DecidableEq, Repr

/-- Why a text is no directive. -/
inductive LogDirectiveFault
  | malformed
  | badLevel
  | badValue (fault : Pattern.Fault)
  | withinCharacter
deriving DecidableEq, Repr

/-- What the fault reports. -/
def LogDirectiveFault.message : LogDirectiveFault → Text
  | malformed => Text.of "invalid filter directive"
  | badLevel =>
    Text.of "error parsing level filter: expected one of \"off\", \"error\", \"warn\", \"info\", "
      ++ Text.of "\"debug\", \"trace\", or a number 0-5"
  | badValue .malformed => Text.of "invalid field filter: error building NFA"
  | badValue .wordBoundary =>
    Text.of "invalid field filter: unsupported regex feature for DFAs: cannot build DFAs for "
      ++ Text.of "regexes with Unicode word boundaries; switch to ASCII word boundaries, or "
      ++ Text.of "heuristically enable Unicode word boundaries or use a different regex engine"
  | withinCharacter => Text.of "byte index is not a char boundary"

namespace LogDirective

/-- A directive for everything. -/
def everything (limit : Nat) : LogDirective := ⟨[], none, false, limit⟩

/-- An ASCII letter in lower case. -/
def lower (c : Char) : Char :=
  if 'A' ≤ c ∧ c ≤ 'Z' then Char.ofNat (c.toNat + 32) else c

/-- The limit that a word or a digit stands for. -/
def limit? (t : Text) : Option Nat :=
  match Text.unsigned64? t with
  | some n => if n ≤ 5 then some n else none
  | none =>
    [("", 1), ("off", 0), ("error", 1), ("warn", 2), ("info", 3), ("debug", 4), ("trace", 5)].lookup
      (String.ofList (t.map lower))

/-! ## Reading -/

/-- A directive as it is written, and without the blanks around it. Where its parts are is found in
the second; they are cut from the first at the same places in bytes, so that blanks in front shift
them, maybe to places within a character. -/
structure Draft where
  written : Text
  bare : Text

namespace Draft

/-- The draft of a written directive. -/
def ofText (t : Text) : Draft := ⟨t, Text.strip t⟩

/-- The place in bytes at which the rest of the bare directive starts. -/
def place (d : Draft) (rest : Text) : Nat :=
  Text.byteLength d.bare - Text.byteLength rest

/-- The part between two rests of the bare directive. -/
def cut (d : Draft) (start stop : Text) : Except LogDirectiveFault Text :=
  (Text.slice? (d.place start) (d.place stop) d.written).elim (.error .withinCharacter) .ok

/-- The part from a rest of the bare directive on. -/
def cutFrom (d : Draft) (start : Text) : Except LogDirectiveFault Text :=
  (Text.dropBytes? (d.place start) d.written).elim (.error .withinCharacter) .ok

/-- The limit after an equals sign; without one everything is shown. -/
def limitFrom (d : Draft) (start : Text) : Except LogDirectiveFault Nat := do
  let t ← d.cutFrom start
  if t.isEmpty then .ok LogLevel.trace.rank
  else (limit? t).elim (.error .badLevel) .ok

/-- A field's name and whether a value is asked for. -/
def fieldOf (t : Text) : Except LogDirectiveFault (Text × Bool) :=
  match t.splitOn '=' with
  | name :: value :: _ =>
    match Pattern.fault? value with
    | none => .ok (name, true)
    | some fault => .error (.badValue fault)
  | _ => if t.isEmpty then .error .malformed else .ok (t, false)

/-- The directive with a target and what the brackets hold, given what follows the brackets. -/
def close (d : Draft) (target : Text) (field : Option Text) (spansOnly : Bool) :
    Text → Except LogDirectiveFault LogDirective
  | [] => .ok ⟨target, field, spansOnly, LogLevel.trace.rank⟩
  | '=' :: rest => (d.limitFrom rest).map fun limit => ⟨target, field, spansOnly, limit⟩
  | _ => .error .malformed

/-- The directive with a target, given what follows the opening bracket. -/
def withBrackets (d : Draft) (target start : Text) : Except LogDirectiveFault LogDirective :=
  match start.dropWhile fun c => c ≠ ']' && c ≠ '\x7b' with
  | ']' :: rest => do
    let _ ← d.cut start (']' :: rest)
    d.close target none true rest
  | '\x7b' :: inner => do
    let span ← d.cut start ('\x7b' :: inner)
    match inner.dropWhile fun c => c ≠ '\x7d' with
    | '\x7d' :: rest => do
      let (name, valued) ← fieldOf (← d.cut inner ('\x7d' :: rest))
      match rest with
      | ']' :: rest => d.close target (some name) (!span.isEmpty || valued) rest
      | _ => .error .malformed
    | _ => .error .malformed
  | _ => .error .malformed

end Draft

/-- Whether a directive may start with a character. -/
def opens (c : Char) : Bool :=
  c = '-' || c = ':' || c = '_' || Text.isAlphanumeric c

/-- A directive from its text. -/
def parse (t : Text) : Except LogDirectiveFault LogDirective :=
  let d := Draft.ofText t
  match d.bare with
  | [] => .error .malformed
  | '[' :: rest => d.withBrackets [] rest
  | c :: _ =>
    if !opens c then .error .malformed
    else
      match d.bare.dropWhile fun c => c ≠ '=' && c ≠ '[' with
      | [] => .ok (((limit? t).map everything).getD ⟨t, none, false, LogLevel.trace.rank⟩)
      | '=' :: rest => do
        let target ← d.cut d.bare ('=' :: rest)
        let limit ← d.limitFrom rest
        .ok ⟨target, none, false, limit⟩
      | bracket :: rest => do
        let target ← d.cut d.bare (bracket :: rest)
        d.withBrackets target rest

/-! ## Selecting -/

/-- Whether a directive is for an event. -/
def selects (d : LogDirective) (e : LogEvent) : Bool :=
  !d.spansOnly && d.target.isPrefixOf e.target && d.field.all e.hasField

/-- Whether a field comes before another, no field before any. -/
def fieldBefore : Option Text → Option Text → Bool
  | none, some _ => true
  | some a, some b => a < b
  | _, none => false

/-- Whether a directive decides against another one that selects the same event, wherever they
stand. -/
def outranks (a b : LogDirective) : Bool :=
  b.target.length < a.target.length
    || (a.target.length = b.target.length && fieldBefore b.field a.field)

end LogDirective

/-- Directives in the order in which they are given. -/
structure LogFilter where
  directives : List LogDirective
deriving DecidableEq, Repr

namespace LogFilter

/-- The directive that decides on an event. -/
def decide? (f : LogFilter) (e : LogEvent) : Option LogDirective :=
  (f.directives.filter fun d => d.selects e).foldl (fun best d =>
    match best with
    | some b => if b.outranks d then some b else some d
    | none => some d) none

/-- Whether an event is shown. -/
def shows (f : LogFilter) (e : LogEvent) : Bool :=
  match f.decide? e with
  | none => false
  | some d => e.level.rank ≤ d.limit

/-- The filter that limits everything alike. -/
def uniform (level : LogLevel) : LogFilter :=
  ⟨[LogDirective.everything level.rank]⟩

/-- The pieces of a setting. -/
def pieces (setting : Text) : List Text :=
  (setting.splitOn ',').filter fun p => !p.isEmpty

/-- A filter with these directives; without any, only errors are shown. -/
def ofDirectives (ds : List LogDirective) : LogFilter :=
  if ds.isEmpty then uniform .error else ⟨ds⟩

/-! ## Reading settings -/

/-- The directives of pieces, and what is told about those that are passed over because they are
none. A cut within a character ends the program, and nothing behind it is read. -/
def readPieces : List Text → List Text × Option (List LogDirective)
  | [] => ([], some [])
  | p :: rest =>
    match LogDirective.parse p with
    | .error .withinCharacter => ([LogDirectiveFault.withinCharacter.message], none)
    | .error fault =>
      let (told, ds?) := readPieces rest
      ((Text.of "ignoring `" ++ p ++ Text.of "`: " ++ fault.message) :: told, ds?)
    | .ok d =>
      let (told, ds?) := readPieces rest
      (told, ds?.map (d :: ·))

/-- The reader of the program. Unless everything is wanted, a missing or unreadable setting shows
warnings; if it is, what cannot be read of the setting is passed over and everything is shown that
the rest does not silence. -/
def reader : LogReader
  | true, setting =>
    let (told, ds?) := readPieces (pieces (setting.getD []))
    ⟨told, ds?.map fun ds => (LogFilter.mk (ds ++ [.everything LogLevel.trace.rank])).shows⟩
  | false, none => ⟨[], some (uniform .warn).shows⟩
  | false, some setting =>
    match (pieces setting).mapM LogDirective.parse with
    | .error .withinCharacter => ⟨[LogDirectiveFault.withinCharacter.message], none⟩
    | .error _ => ⟨[], some (uniform .warn).shows⟩
    | .ok ds => ⟨[], some (ofDirectives ds).shows⟩

end LogFilter

end HartTimeline
