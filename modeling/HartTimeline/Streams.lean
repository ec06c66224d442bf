import HartTimeline.File.Tree
import HartTimeline.Timeline

/-!
# Stream files

Every stream of a timeline has a file of its own in the output directory: the global stream first,
then the streams of the cores in order. Files are replaced as a whole; the first failure ends the
writing.
-/

namespace HartTimeline

/-- The file name of the global stream. -/
def globalStreamName : Text := Text.of "sanitized_log.log"

/-- The file name of a core's stream. -/
def coreStreamName (core : Nat) : Text :=
  Text.of "sanitized_log_" ++ Text.decimal core ++ Text.of ".log"

/-- Something to be done to files. -/
inductive FileAction
  | makePath (path : Text)
  | write (path text : Text)
deriving DecidableEq, Repr

namespace FileTree

/-- The tree after an action, and whether the action failed. -/
def perform (tree : FileTree) : FileAction → FileTree × Except FileFault Unit
  | .makePath path => tree.makePath path
  | .write path text =>
    match tree.writeText path text with
    | .error fault => (tree, .error fault)
    | .ok tree => (tree, .ok ())

/-- The tree after actions one after another, up to the first that fails. -/
def performAll (tree : FileTree) : List FileAction → FileTree × Except FileFault Unit
  | [] => (tree, .ok ())
  | action :: rest =>
    match tree.perform action with
    | (tree, .error fault) => (tree, .error fault)
    | (tree, .ok ()) => performAll tree rest

/-! ## Work that is broken off -/

/-- How a system breaks off an action for reasons of its own, such as missing rights or a full disk:
the tree that it leaves then, and the fault. -/
abbrev Refusal := FileTree → FileAction → Option (FileTree × FileFault)

/-- A system that has no such reasons. -/
def Refusal.never : Refusal := fun _ _ => none

/-- The tree after an action that the system may break off. -/
def performUnder (refusal : Refusal) (tree : FileTree) (action : FileAction) :
    FileTree × Except FileFault Unit :=
  match refusal tree action with
  | some (tree, fault) => (tree, .error fault)
  | none => tree.perform action

/-- The tree after actions one after another, up to the first that fails or is broken off. -/
def performAllUnder (refusal : Refusal) (tree : FileTree) :
    List FileAction → FileTree × Except FileFault Unit
  | [] => (tree, .ok ())
  | action :: rest =>
    match tree.performUnder refusal action with
    | (tree, .error fault) => (tree, .error fault)
    | (tree, .ok ()) => performAllUnder refusal tree rest

end FileTree

namespace Timeline

/-- The files of a timeline in a directory, with what they are to hold. -/
def files (t : Timeline) (directory : Text) : List (Text × Text) :=
  (Path.join directory globalStreamName, t.globalStream)
    :: t.coreStreams.zipIdx.map fun (stream, core) =>
      (Path.join directory (coreStreamName core), stream)

/-- What it takes to write a timeline into a directory. -/
def actions (t : Timeline) (directory : Text) : List FileAction :=
  .makePath directory :: (t.files directory).map fun (path, text) => .write path text

/-- A timeline written into a directory: the tree after it, and the written paths unless something
failed. -/
def save (t : Timeline) (directory : Text) (tree : FileTree) :
    FileTree × Except FileFault (List Text) :=
  match tree.performAll (t.actions directory) with
  | (tree, .error fault) => (tree, .error fault)
  | (tree, .ok ()) => (tree, .ok ((t.files directory).map Prod.fst))

/-- A timeline written into a directory by a system that may break off the work. -/
def saveUnder (refusal : FileTree.Refusal) (t : Timeline) (directory : Text) (tree : FileTree) :
    FileTree × Except FileFault (List Text) :=
  match tree.performAllUnder refusal (t.actions directory) with
  | (tree, .error fault) => (tree, .error fault)
  | (tree, .ok ()) => (tree, .ok ((t.files directory).map Prod.fst))

end Timeline

end HartTimeline
