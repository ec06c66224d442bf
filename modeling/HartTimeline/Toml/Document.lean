import HartTimeline.Toml.DateTime
import HartTimeline.Toml.Number
import HartTimeline.Toml.Quoted
import HartTimeline.Toml.Value

/-!
# TOML documents

A document is a sequence of statements: a key with its value, the header of a table, or the header
of one more table in an array of tables. Values nest at most seventy-nine deep and a key has at most
seventy-nine names.
-/

namespace HartTimeline.Toml

/-! ## Keys -/

/-- A character of a key without quotes. -/
def isBareKeyChar (c : Char) : Bool :=
  c.isAlphanum || c = '-' || c = '_'

/-- One name of a key. -/
def simpleKey (t : Text) : Option (Text × Text) :=
  match t with
  | '"' :: _ => shortString t
  | '\'' :: _ => shortString t
  | _ =>
    let name := t.takeWhile isBareKeyChar
    if name.isEmpty then none else some (name, t.dropWhile isBareKeyChar)

/-- The names of a dotted key. The count bounds their number. -/
def keyNames : Nat → Reader (List Text)
  | 0, _ => none
  | n + 1, t =>
    match simpleKey (skipSpaces t) with
    | none => none
    | some (name, rest) =>
      match skipSpaces rest with
      | '.' :: rest => (keyNames n rest).map fun (names, rest) => (name :: names, rest)
      | rest => some ([name], rest)

/-- A key: the path to a table and the name in it. -/
structure Key where
  path : List Text
  name : Text

/-- The greatest number of names in a key, and of values around a value. -/
def depthLimit : Nat := 79

/-- A key, with the blanks around it. -/
def key : Reader Key := fun t =>
  match keyNames depthLimit t with
  | none => none
  | some (names, rest) =>
    match names.getLast? with
    | none => none
    | some name => some (⟨names.dropLast, name⟩, rest)

/-! ## Values -/

/-- A value that holds no other. -/
def scalar (t : Text) : Option (Value × Text) :=
  match t with
  | '"' :: _ => (string t).map fun (s, rest) => (.string s, rest)
  | '\'' :: _ => (string t).map fun (s, rest) => (.string s, rest)
  | 't' :: 'r' :: 'u' :: 'e' :: rest => some (.boolean true, rest)
  | 'f' :: 'a' :: 'l' :: 's' :: 'e' :: rest => some (.boolean false, rest)
  | _ =>
    match dateTime? t, float t, integer t with
    | some rest, _, _ => some (.dateTime (t.take (t.length - rest.length)), rest)
    | none, some (_, rest), _ => some (.float (t.take (t.length - rest.length)), rest)
    | none, none, some (n, rest) => some (.integer n, rest)
    | none, none, none => none

/-- The further items of an array after a bracket or a comma. The count bounds their number. -/
def arrayItems (item : Reader Value) : Nat → Reader (List Value)
  | 0, _ => none
  | n + 1, t =>
    match skipGap t with
    | ']' :: rest => some ([], rest)
    | t =>
      match item t with
      | none => none
      | some (v, rest) =>
        match skipGap rest with
        | ',' :: rest => (arrayItems item n rest).map fun (vs, rest) => (v :: vs, rest)
        | ']' :: rest => some ([v], rest)
        | _ => none

/-- A key, an equals sign and a value. -/
def assignment (item : Reader Value) : Reader (Key × Value) := fun t => do
  let (k, t) ← key t
  let t ← expect? '=' t
  let (v, t) ← item (skipSpaces t)
  some ((k, v), t)

/-- The assignments of an inline table, of which there is at least one. The count bounds their
number. -/
def inlineEntries (item : Reader Value) : Nat → Entries → Reader Entries
  | 0, _, _ => none
  | n + 1, es, t => do
    let ((k, v), rest) ← assignment item t
    let es ← es.assign v k.path k.name
    match skipSpaces rest with
    | ',' :: rest => inlineEntries item n es rest
    | '\x7d' :: rest => some (es, rest)
    | _ => none

/-- A value that holds values at most so many deep. -/
def value : Nat → Reader Value
  | 0, t => scalar t
  | depth + 1, t =>
    match t with
    | '[' :: rest =>
      (arrayItems (value depth) t.length rest).map fun (vs, rest) => (.array vs, rest)
    | '\x7b' :: rest =>
      match skipSpaces rest with
      | '\x7d' :: rest => some (.table .inline [], rest)
      | rest =>
        (inlineEntries (value depth) t.length [] rest).map fun (es, rest) =>
          (.table .inline es, rest)
    | _ => scalar t

/-! ## Statements -/

/-- One statement of a document. -/
inductive Statement
  | table (key : Key)
  | arrayTable (key : Key)
  | assign (key : Key) (value : Value)

/-- The rest of a table's header after the bracket. -/
def tableHeader (t : Text) : Option (Key × Text) := do
  let (k, t) ← key t
  let t ← expect? ']' t
  some (k, t)

/-- The statement at the front of a line. -/
def statement (t : Text) : Option (Statement × Text) :=
  match t with
  | '[' :: '[' :: rest => do
    let (k, t) ← tableHeader rest
    let t ← expect? ']' t
    some (.arrayTable k, t)
  | '[' :: rest => (tableHeader rest).map fun (k, t) => (.table k, t)
  | t => (assignment (value depthLimit) t).map fun ((k, v), t) => (.assign k v, t)

/-- The statements of a document. The count bounds the number of lines. -/
def statements : Nat → Text → Option (List Statement)
  | 0, _ => none
  | n + 1, t =>
    match skipSpaces t with
    | [] => some []
    | t =>
      match newLine? (skipComment t) with
      | some rest => statements n rest
      | none =>
        if skipComment t = [] then some []
        else do
          let (s, rest) ← statement t
          let rest ← lineEnd? rest
          (statements n rest).map (s :: ·)

/-- The root table while a document is read, with the path of the table that is open. -/
structure Tree where
  root : Entries
  current : List Text

/-- The tree after a statement; a statement may contradict an earlier one. -/
def Tree.add (tree : Tree) : Statement → Option Tree
  | .table k => (tree.root.openTable k.path k.name).map fun root => ⟨root, k.path ++ [k.name]⟩
  | .arrayTable k =>
    (tree.root.openArrayTable k.path k.name).map fun root => ⟨root, k.path ++ [k.name]⟩
  | .assign k v =>
    (tree.root.within (fun es => es.assign v k.path k.name) tree.current).map fun root =>
      ⟨root, tree.current⟩

/-- The text without a byte order mark in front. -/
def dropMark : Text → Text
  | '\ufeff' :: rest => rest
  | t => t

/-- The root table of a document, or nothing if the text is no TOML document. -/
def read (t : Text) : Option Entries := do
  let t := dropMark t
  let ss ← statements (t.length + 1) t
  let tree ← ss.foldlM Tree.add ⟨[], []⟩
  some tree.root

end HartTimeline.Toml
