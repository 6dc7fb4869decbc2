import Hotload.Files.Basic

/-!
# Foreign causes

Many failures of the library have a cause outside it: the file system refuses, a container or a
document cannot be read, the system's own loader gives up. An error message ends in the text of such
a cause. The texts belong to whoever reports the error, so every message takes them as a `Wording`.
-/

namespace Hotload

/-- A cause that lies outside the library. -/
inductive Cause where
  | file (error : FileError)
  /-- A container that cannot be read. -/
  | container
  /-- A document that cannot be read. -/
  | document
  /-- The system's loader for native libraries. -/
  | platform
  deriving DecidableEq, Repr

/-- What is said about a cause. -/
abbrev Wording := Cause → String

/-- The text of the operating system for a refusal. -/
def FileError.description : FileError → String
  | .notFound => "No such file or directory (os error 2)"
  | .alreadyExists => "File exists (os error 17)"
  | .notADirectory => "Not a directory (os error 20)"
  | .isADirectory => "Is a directory (os error 21)"
  | .directoryNotEmpty => "Directory not empty (os error 39)"
  | .permissionDenied => "Permission denied (os error 13)"
  | .invalidFilename => "File name too long (os error 36)"
  | .filesystemLoop => "Too many levels of symbolic links (os error 40)"
  | .invalidInput => "Invalid argument (os error 22)"
  | .unusableData => "unusable data"

/-- Plain texts for all causes. -/
def Cause.description : Wording
  | .file error => error.description
  | .container => "invalid container"
  | .document => "invalid document"
  | .platform => "the library cannot be loaded"

end Hotload
