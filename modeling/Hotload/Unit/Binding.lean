import Hotload.Native.SharedObject
import Hotload.Symbol.EntryPath
import Hotload.Unit.Basic

/-!
# Binding artifacts

Binding reads from an artifact what it offers. An archive is indexed: every bytecode entry stands
for a symbol, and of two entries for one symbol the later counts. Bodies are read by `readBody`, at
the time of the look-up and from the file as it then is.
-/

namespace Hotload

namespace UnitContent

/-- Adds a symbol to an index, in place of an earlier entry for it. -/
def indexPut (index : List (String × String)) (symbol entry : String) : List (String × String) :=
  if index.any (·.1 == symbol) then
    index.map fun pair => if pair.1 == symbol then (symbol, entry) else pair
  else index ++ [(symbol, entry)]

/-- Adds what one entry stands for. -/
def indexEntry (index : List (String × String)) (entry : Zip.Entry) : List (String × String) :=
  if entry.isDirectory then index
  else
    match Symbol.symbolName? entry.name with
    | some symbol => indexPut index symbol entry.name
    | none => index

/-- The index of a container. -/
def indexOf (entries : List Zip.Entry) : List (String × String) :=
  entries.foldl indexEntry []

/-- The length of an artifact, which has to be there. -/
def artifactSize (files : Files) (artifact : String) : Except UnitError Nat :=
  match files.size artifact with
  | .ok size => .ok size
  | .error error => .error (if error = .notFound then .notFound artifact else .file error)

/-- Reads the entries of an artifact. -/
def openArtifact (files : Files) (artifact : String) :
    Except UnitError (Bytes × List Zip.Entry) :=
  match Packaging.openContainer files artifact with
  | .ok opened => .ok opened
  | .error .container => .error (.malformed artifact .container)
  | .error (.file error) => .error (.file error)

/-- Indexes an archive. -/
def bindArchive (files : Files) (artifact : String) : Except UnitError UnitContent :=
  match artifactSize files artifact with
  | .error error => .error error
  | .ok size =>
    if size = 0 then .error (.malformed artifact .empty)
    else
      match openArtifact files artifact with
      | .error error => .error error
      | .ok (_, entries) => .ok (.archive (indexOf entries))

/-- Opens a native library. A path without a separator is not opened but searched for among the
system's libraries, where it is not. -/
def bindNative (files : Files) (artifact : String) : Except UnitError UnitContent :=
  if !files.exists_ artifact then .error (.notFound artifact)
  else if '/' ∉ artifact.toList then .error .platform
  else
    match (files.read artifact).toOption.bind Native.exports? with
    | some exports => .ok (.native exports)
    | none => .error .platform

/-- Binds an artifact. -/
def bind (platform : Platform) (files : Files) (artifact : String) : Except UnitError UnitContent :=
  match platform with
  | .archive => bindArchive files artifact
  | .native => bindNative files artifact

/-- Addresses have 47 bits. No process has room for more bytes than that, so a longer buffer ends
the program. -/
def addressLimit : Nat := 140737488355328

/-- What reading a body leads to. -/
inductive BodyRead where
  | body (content : Bytes)
  | failed (error : UnitError)
  | crashed (crash : Crash)
  deriving DecidableEq, Repr

/-- Reads the body in an entry of an artifact. Room for the body is made beforehand, as much as the
entry promises. -/
def readBody (files : Files) (artifact entryName : String) : BodyRead :=
  match openArtifact files artifact with
  | .error error => .failed error
  | .ok (container, entries) =>
    match entries.find? (·.name == entryName) with
    | none => .failed (.malformed artifact .container)
    | some entry =>
      match entry.content container with
      | .error .unsupported => .failed (.malformed artifact .container)
      | .error .damaged =>
        if addressLimit ≤ entry.declaredSize then .crashed .exhausted
        else .failed (.file .unusableData)
      | .ok content =>
        if addressLimit ≤ entry.declaredSize then .crashed .exhausted else .body content

end UnitContent

end Hotload
