import HartTimeline.Text.Charset

/-!
# File faults

Why a file or directory operation fails, with the system's words for it.
-/

namespace HartTimeline

/-- Why a file operation fails. -/
inductive FileFault
  | notFound
  | alreadyExists
  | notDirectory
  | isDirectory
  | nameTooLong
  | nulInName
  | notText
  | other (message : Text)
deriving DecidableEq, Repr

/-- The system's description of a fault. -/
def FileFault.message : FileFault → Text
  | notFound => Text.of "No such file or directory (os error 2)"
  | alreadyExists => Text.of "File exists (os error 17)"
  | notDirectory => Text.of "Not a directory (os error 20)"
  | isDirectory => Text.of "Is a directory (os error 21)"
  | nameTooLong => Text.of "File name too long (os error 36)"
  | nulInName => Text.of "file name contained an unexpected NUL byte"
  | notText => Text.of "stream did not contain valid UTF-8"
  | other m => m

end HartTimeline
