import Hotload.Text.Utf8

/-!
# Path texts

Paths are kept and shown as the texts they were given as or built from. This module joins them and
takes them apart; which file a path leads to is decided in `Hotload.Files`.
-/

namespace Hotload.Path

/-- Whether a path starts at the root of the file tree. -/
def isAbsolute (path : String) : Bool :=
  (Text.chars path).head? = some '/'

/-- Whether a path ends in a separator, which asks for a directory. -/
def endsInSeparator (path : String) : Bool :=
  (Text.chars path).getLast? = some '/'

/-- The path of `child` as seen from `base`. An absolute child stands alone, and a separator is put
in unless the base is empty or already ends in one. -/
def join (base child : String) : String :=
  if isAbsolute child then child
  else if base = "" ∨ endsInSeparator base then base ++ child
  else base ++ "/" ++ child

/-- The parts between separators, without the empty ones. -/
def parts (path : String) : List String :=
  (((Text.chars path).splitOn '/').filter (· ≠ [])).map String.ofList

/-- The parts that matter for the text: a single dot counts only at the start of a relative path. -/
def components (path : String) : List String :=
  match parts path with
  | "." :: rest =>
    if isAbsolute path then rest.filter (· ≠ ".") else "." :: rest.filter (· ≠ ".")
  | all => all.filter (· ≠ ".")

/-- The last component, if it is a proper name. -/
def fileName? (path : String) : Option String :=
  match (components path).getLast? with
  | some name => if name = "." ∨ name = ".." then none else some name
  | none => none

/-- The name a unit gets from the path of its artifact: the last component, or the whole path where
there is no proper one. -/
def unitName (path : String) : String :=
  (fileName? path).getD path

/-- The path without its last component; the root and the empty path have none. -/
def parent? (path : String) : Option String :=
  match components path with
  | [] => none
  | all => some ((if isAbsolute path then "/" else "") ++ "/".intercalate all.dropLast)

end Hotload.Path
