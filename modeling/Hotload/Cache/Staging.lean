import Hotload.Cache.Layout
import Hotload.Digest.Sha256
import Hotload.Text.Utf8

/-!
# Staged files

Files of passing use get names that no other file has: a digest of what they are for, followed by a
token that is drawn for each of them. A container's compiled artifact lasts; its name is a digest of
the container's path and time, so a container that changed is compiled anew.
-/

namespace Hotload

/-- Where files are staged and which extensions they get. -/
structure Staging where
  layout : Layout
  archiveExtension : String
  artifactExtension : Option String
  deriving DecidableEq, Repr

/-- A path that could not be staged. -/
structure StagingError where
  path : String
  error : FileError
  deriving DecidableEq, Repr

namespace Staging

/-- The staging that a configuration asks for. -/
def ofConfig (config : Config) : Staging :=
  ⟨Layout.ofConfig config, config.archiveExtension, config.artifactExtension⟩

/-- The digest of a text, in hexadecimal digits. -/
def digest (text : String) : String :=
  Bytes.hex (Digest.Sha256.hash (Text.utf8 text))

/-- The first eight bytes of the digest of a text, in hexadecimal digits. -/
def shortDigest (text : String) : String :=
  Bytes.hex ((Digest.Sha256.hash (Text.utf8 text)).take 8)

/-- A name with its extension. -/
def withExtension (name : String) : Option String → String
  | none => name
  | some extension => name ++ "." ++ extension

/-- The path staged for a purpose when a token is drawn. -/
def pathFor (staging : Staging) (key : String) (extension : Option String) (token : String) :
    String :=
  Path.join staging.layout.staging (withExtension (shortDigest key ++ "_" ++ token) extension)

/-- Stages a path. It is either created, and then a file that is there already will do, or cleared
of whatever file is there. -/
def stage (staging : Staging) (key : String) (extension : Option String) (create : Bool)
    (token : String) (files : Files) : Files × Except StagingError String :=
  let path := staging.pathFor key extension token
  if create then
    match files.createNew path with
    | .ok after => (after, .ok path)
    | .error error => (files, if error = .alreadyExists then .ok path else .error ⟨path, error⟩)
  else
    match files.removeIfExists path with
    | (after, .ok _) => (after, .ok path)
    | (after, .error error) => (after, .error ⟨path, error⟩)

/-- Stages a path for an archive, which whoever writes it will create. -/
def stageArchive (staging : Staging) (key token : String) :
    Files → Files × Except StagingError String :=
  staging.stage key (some staging.archiveExtension) false token

/-- Stages an empty file for a compiled artifact. -/
def stageOutput (staging : Staging) (key token : String) :
    Files → Files × Except StagingError String :=
  staging.stage key staging.artifactExtension true token

/-- What the name of a lasting artifact is a digest of: path and time of the container. A time
before 1970 counts as its start. -/
def durableMessage (container : String) (modified : Int) : String :=
  container ++ "_" ++ toString modified.toNat

/-- The path of the artifact that lasts for a container. -/
def durablePath (staging : Staging) (container : String) (files : Files) :
    Except FileError String :=
  match files.modified container with
  | .error error => .error error
  | .ok modified =>
    .ok (Path.join staging.layout.root
      (withExtension (digest (durableMessage container modified)) staging.artifactExtension))

end Staging

end Hotload
