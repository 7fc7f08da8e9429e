import ParserRefresh.Fault
import ParserRefresh.Files.Walk
import ParserRefresh.Path.Parent

/-! # Writing files

A file is written where its path leads, links followed, and keeps its executable mark. An
artifact is written after the directories above it have been made; those stay even when the file
itself cannot be written. -/

namespace ParserRefresh.FileSystem

def write (files : FileSystem) (path : Path) (contents : Contents) : Except Refusal FileSystem :=
  match files.locate .create path with
  | .ok (.present location (.file _ executable)) =>
    .ok (files.put location (.file contents executable))
  | .ok (.present ..) => .error .isDirectory
  | .ok (.vacant location) => .ok (files.put location (.file contents false))
  | .error refusal => .error refusal

/-- Makes the directory at a path, which must be free. -/
def makeDirectory (files : FileSystem) (path : Path) : Except Refusal FileSystem :=
  match files.locate .name path with
  | .ok (.present ..) => .error .alreadyExists
  | .ok (.vacant location) => .ok (files.put location .directory)
  | .error refusal => .error refusal

def ensureDirectory (files : FileSystem) (path : Path) : Except Refusal Unit × FileSystem :=
  match files.makeDirectory path with
  | .ok made => (.ok (), made)
  | .error refusal =>
    if files.isDirectory path then (.ok (), files) else (.error refusal, files)

/-- Makes the directory at a path with those above it that are missing. -/
def ensureDirectories (files : FileSystem) (path : Path) : Except Refusal Unit × FileSystem :=
  if path.text.isEmpty then (.ok (), files)
  else
    match files.makeDirectory path with
    | .error .noEntry =>
      match _above : path.parent? with
      | none => (.error .noEntry, files)
      | some parent =>
        match files.ensureDirectories parent with
        | (.ok (), files) => files.ensureDirectory path
        | (.error refusal, files) => (.error refusal, files)
    | _ => files.ensureDirectory path
termination_by path.text.length
decreasing_by exact Path.length_parent?_lt _above

/-- Writes a text to a path, after making the directories above it. -/
def writeArtifact (files : FileSystem) (path : Path) (text : Text) :
    Except Fault Unit × FileSystem :=
  let parent := path.directory
  match files.ensureDirectories parent with
  | (.error refusal, files) => (.error (Cause.file parent refusal.message), files)
  | (.ok (), files) =>
    match files.write path (.text text) with
    | .ok files => (.ok (), files)
    | .error refusal => (.error (Cause.file path refusal.message), files)

end ParserRefresh.FileSystem
