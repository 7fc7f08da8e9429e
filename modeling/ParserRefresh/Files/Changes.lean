import ParserRefresh.Files.Basic

/-! # What changed

Two states of a file system are compared below the working directory: which files are new or
hold something else, which directories are new, and which files and directories are gone. Links
and executable marks are not compared. -/

namespace ParserRefresh.FileSystem

inductive Change where
  | wrote (contents : Contents)
  | made
  | removedFile
  | removedDirectory
  deriving DecidableEq

def below? (files : FileSystem) (location : Location) : Option Location :=
  if files.workingDirectory.isPrefixOf location ∧ location ≠ files.workingDirectory then
    some (location.drop files.workingDirectory.length)
  else none

def Change.ofEntry? (old : Option Entry) : Entry → Option Change
  | .link _ => none
  | .directory => if old = some .directory then none else some .made
  | .file contents _ =>
    match old with
    | some (.file before _) => if before = contents then none else some (.wrote contents)
    | _ => some (.wrote contents)

def Change.ofLoss? (now : Option Entry) : Entry → Option Change
  | .link _ => none
  | .directory => if now = some .directory then none else some .removedDirectory
  | .file .. =>
    match now with
    | some (.file ..) => none
    | _ => some .removedFile

/-- The changes from one state to the next, each with the part of its location below the working
directory: first what is gone, then what is new. -/
def changes (before after : FileSystem) : List (Location × Change) :=
  let lost := before.entries.filterMap (fun (location, entry) => do
    let name ← before.below? location
    let change ← Change.ofLoss? (after.find? location) entry
    some (name, change))
  let new := after.entries.filterMap (fun (location, entry) => do
    let name ← after.below? location
    let change ← Change.ofEntry? (before.find? location) entry
    some (name, change))
  lost ++ new

end ParserRefresh.FileSystem
