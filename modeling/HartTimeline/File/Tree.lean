import HartTimeline.Assoc
import HartTimeline.File.Path

/-!
# File trees

The files and directories of a system without links, and the working directory from which relative
paths start. Reading, writing and making directories fail as the system calls do; a failed operation
changes nothing, except that directories made on the way to one that cannot be made stay.
-/

namespace HartTimeline

/-- Where a file or directory stands: the names on the way to it from the root. -/
abbrev Location := List Text

/-- What a file holds: a text in UTF-8, or bytes that are none. -/
inductive Content
  | text (t : Text)
  | bytes (b : List UInt8)
deriving DecidableEq

/-- The content that bytes make. -/
def Content.ofBytes (b : ByteArray) : Content :=
  match String.fromUTF8? b with
  | some s => text s.toList
  | none => bytes b.toList

/-- What stands at a location. -/
inductive FileNode
  | directory
  | file (content : Content)
deriving DecidableEq

/-- The files and directories at their locations, and the working directory. -/
structure FileTree where
  home : Location
  nodes : Assoc Location FileNode
deriving DecidableEq

namespace FileTree

/-- A working directory and the directories around it, with nothing else in them. -/
def empty (home : Location) : FileTree := ⟨home, Assoc.empty⟩

/-- What stands at a location, if anything does. The working directory and the directories around it
are always there. -/
def node? (tree : FileTree) (loc : Location) : Option FileNode :=
  if loc.isPrefixOf tree.home then some .directory else tree.nodes.get? loc

/-- The tree with something put at a location. -/
def put (tree : FileTree) (loc : Location) (node : FileNode) : FileTree :=
  { tree with nodes := tree.nodes.insert loc node }

/-- The files with their content. -/
def files (tree : FileTree) : List (Location × Content) :=
  tree.nodes.entries.filterMap fun (loc, node) =>
    match node with
    | .directory => none
    | .file content => some (loc, content)

/-! ## Looking up a path -/

/-- Nothing but a directory can be entered. -/
def enter (tree : FileTree) (loc : Location) : Except FileFault Unit :=
  match tree.node? loc with
  | none => .error .notFound
  | some (.file _) => .error .notDirectory
  | some .directory => .ok ()

/-- The location that the parts of a path lead to. All but the last one must be directories; what
the last one names may be missing. -/
def walk (tree : FileTree) (loc : Location) : List Text → Except FileFault Location
  | [] => .ok loc
  | part :: rest =>
    match tree.enter loc with
    | .error fault => .error fault
    | .ok () =>
      if part = ['.'] then walk tree loc rest
      else if part = ['.', '.'] then walk tree loc.dropLast rest
      else if 255 < Text.byteLength part then .error .nameTooLong
      else walk tree (loc ++ [part]) rest

/-- Where a path starts: at the root if a slash comes first. -/
def start (tree : FileTree) (path : Text) : Location :=
  if path.head? = some '/' then [] else tree.home

/-- The location that a path names; after a slash at the end only a directory will do. -/
def locate (tree : FileTree) (path : Text) : Except FileFault Location :=
  match Path.check path with
  | .error fault => .error fault
  | .ok () =>
    tree.walk (tree.start path)
      (Path.parts path ++ if path.getLast? = some '/' then [['.']] else [])

/-! ## Reading and writing -/

/-- The text of a file. -/
def readText (tree : FileTree) (path : Text) : Except FileFault Text :=
  match tree.locate path with
  | .error fault => .error fault
  | .ok loc =>
    match tree.node? loc with
    | none => .error .notFound
    | some .directory => .error .isDirectory
    | some (.file (.bytes _)) => .error .notText
    | some (.file (.text t)) => .ok t

/-- The tree with a file written, replacing what the file held. -/
def writeText (tree : FileTree) (path text : Text) : Except FileFault FileTree :=
  match tree.locate path with
  | .error fault => .error fault
  | .ok loc =>
    match tree.enter loc.dropLast, tree.node? loc with
    | .error fault, _ => .error fault
    | .ok (), some .directory => .error .isDirectory
    | .ok (), _ => .ok (tree.put loc (.file (.text text)))

/-- The tree with one directory made, given by the parts of its path from a location. What the last
part names must not be there. -/
def makeDirectory (tree : FileTree) (start : Location) (ps : List Text) :
    Except FileFault FileTree :=
  match tree.walk start ps with
  | .error fault => .error fault
  | .ok loc =>
    match tree.node? loc with
    | some _ => .error .alreadyExists
    | none => .ok (tree.put loc .directory)

/-- Whether the parts of a path from a location lead to a directory. -/
def isDirectory (tree : FileTree) (start : Location) (ps : List Text) : Bool :=
  match tree.walk start ps with
  | .error _ => false
  | .ok loc => tree.node? loc = some .directory

/-- The tree with a directory and all directories on the way to it made, as far as they are
missing. -/
def makeDirectories (tree : FileTree) (start : Location) (ps : List Text) :
    FileTree × Except FileFault Unit :=
  if h : ps = [] then (tree, .ok ())
  else
    match tree.makeDirectory start ps with
    | .ok tree => (tree, .ok ())
    | .error .notFound =>
      have := Path.length_parent_lt h
      match makeDirectories tree start (Path.parent ps) with
      | (tree, .error fault) => (tree, .error fault)
      | (tree, .ok ()) =>
        match tree.makeDirectory start ps with
        | .ok tree => (tree, .ok ())
        | .error fault => (tree, if tree.isDirectory start ps then .ok () else .error fault)
    | .error fault => (tree, if tree.isDirectory start ps then .ok () else .error fault)
termination_by ps.length

/-- The tree with the directory that a path names made. The empty path needs nothing. -/
def makePath (tree : FileTree) (path : Text) : FileTree × Except FileFault Unit :=
  if path.isEmpty then (tree, .ok ())
  else
    match Path.check path with
    | .error fault => (tree, .error fault)
    | .ok () => tree.makeDirectories (tree.start path) (Path.parts path)

end FileTree

end HartTimeline
