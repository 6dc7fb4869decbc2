import Hotload.CommandLine.Run

/-!
# The program

The program takes a picture of the file tree that a call can reach, runs the call on it and carries
the changes out: the working directory and every absolute path that the call names, with everything
below them. Links are left out of the picture.
-/

namespace Hotload.Program

/-- How many directories deep the picture goes. -/
def depthLimit : Nat := 64

/-- Adds what stands at a path, and below it, to the picture at a location. -/
def gather : Nat → String → Location → Files → IO Files
  | 0, _, _, files => return files
  | depth + 1, path, location, files => do
    let place := (← IO.currentDir) / path
    let about ← place.symlinkMetadata
    match about.type with
    | .file =>
      let content := (← IO.FS.readBinFile place).toList
      let time := about.modified.sec * 1000 + (about.modified.nsec.toNat / 1000000 : Nat)
      return files.put location (.file content time)
    | .dir =>
      let entries ← place.readDir
      entries.foldlM
        (fun files entry =>
          gather depth (Path.join path entry.fileName) (location ++ [entry.fileName]) files)
        (files.put location .directory)
    | _ => return files

/-- Adds what stands at a path, as far as it can be read. -/
def gatherIfThere (path : String) (location : Location) (files : Files) : IO Files := do
  try gather depthLimit path location files
  catch _ => return files

/-- The directories above an absolute path. -/
def ancestors (path : String) : List Location :=
  let parts := Path.parts path
  (List.range parts.length).map parts.take

/-- Adds an absolute path with the directories above it. -/
def gatherAbsolute (path : String) (files : Files) : IO Files :=
  gatherIfThere path (Path.parts path)
    ((ancestors path).foldl (fun files location => files.put location .directory) files)

/-- The values that arguments hold, after an equals sign or on their own. -/
def values (arguments : List String) : List String :=
  arguments.flatMap fun argument => [argument, "=".intercalate ((argument.splitOn "=").drop 1)]

/-- The picture that a call starts with. -/
def picture (arguments : List String) : IO Files := do
  let now ← IO.monoMsNow
  let start : Files := ⟨[(["tmp"], .directory), (Files.workingDirectory, .directory)], now⟩
  let usual : Config := {}
  let absolute := (usual.cacheDirectory :: values arguments).filter Path.isAbsolute
  let files ← gatherIfThere "." Files.workingDirectory start
  absolute.foldlM (fun files path => gatherAbsolute path files) files

/-- The path of a location. -/
def pathOf (location : Location) : String :=
  if Files.workingDirectory.isPrefixOf location then
    "/".intercalate ("." :: location.drop Files.workingDirectory.length)
  else "/" ++ "/".intercalate location

/-- Removes what a change took away. -/
def removeOld (entry : Location × Node) : IO Unit := do
  try
    match entry.2 with
    | .directory => IO.FS.removeDirAll (pathOf entry.1)
    | _ => IO.FS.removeFile (pathOf entry.1)
  catch _ => return

/-- Makes what a change brought. -/
def makeNew (entry : Location × Node) : IO Unit :=
  match entry.2 with
  | .file content _ => IO.FS.writeBinFile (pathOf entry.1) (ByteArray.mk content.toArray)
  | .directory => IO.FS.createDirAll (pathOf entry.1)
  | .link _ => return

/-- Carries the changes between two pictures out. -/
def carryOut (before after : Files) : IO Unit := do
  let old := before.entries.filter fun entry => after.node? entry.1 ≠ some entry.2
  let new := after.entries.filter fun entry => before.node? entry.1 ≠ some entry.2
  old.forM removeOld
  (new.mergeSort fun left right => decide (left.1.length ≤ right.1.length)).forM makeNew

end Hotload.Program

open Hotload in
/-- Runs one call of the program. -/
def main (arguments : List String) : IO UInt32 := do
  let before ← Program.picture arguments
  let report := CommandLine.run arguments before
  Program.carryOut before report.files
  IO.print report.output
  IO.eprint report.diagnostics
  return UInt32.ofNat report.exitCode
