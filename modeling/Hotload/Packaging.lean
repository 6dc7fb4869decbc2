import Hotload.Cause
import Hotload.Files.Change
import Hotload.Zip.Directory
import Hotload.Zip.Writer

/-!
# Packaging

Bytecode reaches a compiler in an archive. `packageBytes` writes one with a single entry, and
`packageContainer` copies the entries of a container that are no directories, in their order and
under their names. An archive that could not be finished is left behind empty.
-/

namespace Hotload

/-- Why packaging failed. -/
inductive PackagingError where
  | file (error : FileError)
  /-- The container is none, or packs an entry in a way that is not supported. -/
  | container
  deriving DecidableEq, Repr

/-- The text of a packaging error. -/
def PackagingError.message (wording : Wording) : PackagingError → String
  | .file error => "I/O error: " ++ wording (.file error)
  | .container => "Archive error: " ++ wording .container

namespace Packaging

/-- The content and the entries of a container. A directory can be opened but is no container. -/
def openContainer (files : Files) (path : String) :
    Except PackagingError (Bytes × List Zip.Entry) :=
  match files.read path with
  | .error .isADirectory => .error .container
  | .error error => .error (.file error)
  | .ok content =>
    match Zip.entries? content with
    | none => .error .container
    | some entries => .ok (content, entries)

/-- The entries of a container that are no directories. -/
def openEntries (files : Files) (path : String) : Except PackagingError (List Zip.Entry) :=
  match openContainer files path with
  | .error error => .error error
  | .ok (_, entries) => .ok (entries.filter (!·.isDirectory))

/-- The names of the entries of a container that are no directories. -/
def entryNames (files : Files) (path : String) : Except PackagingError (List String) :=
  match openEntries files path with
  | .error error => .error error
  | .ok entries => .ok (entries.map (·.name))

/-- Why the content of an entry cannot be copied. -/
def ofContentError : Zip.ContentError → PackagingError
  | .unsupported => .container
  | .damaged => .file .unusableData

/-- The names and contents of entries, up to the first that cannot be read. -/
def contents (container : Bytes) : List Zip.Entry → Except PackagingError (List (String × Bytes))
  | [] => .ok []
  | entry :: rest =>
    match entry.content container with
    | .error error => .error (ofContentError error)
    | .ok content =>
      match contents container rest with
      | .error error => .error error
      | .ok others => .ok ((entry.name, content) :: others)

/-- Writes an archive with one entry. -/
def packageBytes (archive entry : String) (content : Bytes) (files : Files) :
    Files × Except PackagingError Unit :=
  match files.write archive (Zip.write [(entry, content)]) with
  | .ok after => (after, .ok ())
  | .error error => (files, .error (.file error))

/-- Copies a container into an archive. The result is the number of entries copied. The archive is
opened, and thereby emptied, before the first content is read. -/
def packageContainer (archive container : String) (files : Files) :
    Files × Except PackagingError Nat :=
  match openEntries files container with
  | .error error => (files, .error error)
  | .ok entries =>
    match files.write archive [] with
    | .error error => (files, .error (.file error))
    | .ok opened =>
      match opened.read container with
      | .error error => (opened, .error (.file error))
      | .ok content =>
        match contents content entries with
        | .error error => (opened, .error error)
        | .ok parts =>
          match opened.write archive (Zip.write parts) with
          | .error error => (opened, .error (.file error))
          | .ok after => (after, .ok parts.length)

end Packaging

end Hotload
