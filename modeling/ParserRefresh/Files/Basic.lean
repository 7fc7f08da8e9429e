import ParserRefresh.Path
import ParserRefresh.Text.Utf8

/-! # Files and directories

A file system is a finite list of entries, each at a location: the names that lead to it from the
root. The root is a directory without an entry of its own. Relative paths are read from the
working directory. -/

namespace ParserRefresh

abbrev Location := List Text

/-- What a file holds: a text, or bytes that are the UTF-8 of none. -/
inductive Contents where
  | text (chars : Text)
  | binary (bytes : List UInt8)
  deriving DecidableEq

def Contents.ofBytes (bytes : List UInt8) : Contents :=
  match Text.ofUtf8? bytes with
  | some chars => .text chars
  | none => .binary bytes

def Contents.bytes : Contents → List UInt8
  | .text chars => Text.toUtf8 chars
  | .binary bytes => bytes

inductive Entry where
  | file (contents : Contents) (executable : Bool)
  | directory
  | link (target : Path)
  deriving DecidableEq

/-- Why the system refuses to use a path or to start a program. -/
inductive Refusal where
  | noEntry
  | argumentsTooLong
  | notProgram
  | accessDenied
  | alreadyExists
  | notDirectory
  | isDirectory
  | nameTooLong
  | tooManyLinks
  | holdsNul
  | notUtf8
  deriving DecidableEq

def Refusal.reason : Refusal → Text
  | .noEntry => "No such file or directory".toList
  | .argumentsTooLong => "Argument list too long".toList
  | .notProgram => "Exec format error".toList
  | .accessDenied => "Permission denied".toList
  | .alreadyExists => "File exists".toList
  | .notDirectory => "Not a directory".toList
  | .isDirectory => "Is a directory".toList
  | .nameTooLong => "File name too long".toList
  | .tooManyLinks => "Too many levels of symbolic links".toList
  | .holdsNul => "file name contained an unexpected NUL byte".toList
  | .notUtf8 => "stream did not contain valid UTF-8".toList

/-- The number that the system has for a refusal of its own. -/
def Refusal.number? : Refusal → Option Nat
  | .noEntry => some 2
  | .argumentsTooLong => some 7
  | .notProgram => some 8
  | .accessDenied => some 13
  | .alreadyExists => some 17
  | .notDirectory => some 20
  | .isDirectory => some 21
  | .nameTooLong => some 36
  | .tooManyLinks => some 40
  | .holdsNul | .notUtf8 => none

def Refusal.message (refusal : Refusal) : Text :=
  match refusal.number? with
  | some number =>
    refusal.reason ++ " (os error ".toList ++ (toString number).toList ++ [')']
  | none => refusal.reason

/-- A tree of files, and the directory in which relative paths start. -/
structure FileSystem where
  entries : List (Location × Entry)
  workingDirectory : Location
  deriving DecidableEq

namespace FileSystem

def find? (files : FileSystem) (location : Location) : Option Entry :=
  if location = [] then some .directory else files.entries.lookup location

/-- Replaces the entry of a location in a list, or adds one at its end. -/
def putEntry (location : Location) (entry : Entry) :
    List (Location × Entry) → List (Location × Entry)
  | [] => [(location, entry)]
  | (place, old) :: rest =>
    if place = location then (place, entry) :: rest
    else (place, old) :: putEntry location entry rest

/-- The file system with `entry` at a location. -/
def put (files : FileSystem) (location : Location) (entry : Entry) : FileSystem :=
  { files with entries := putEntry location entry files.entries }

def remove (files : FileSystem) (location : Location) : FileSystem :=
  { files with entries := files.entries.filter (fun entry => !location.isPrefixOf entry.1) }

def regularFiles (files : FileSystem) : List Location :=
  files.entries.filterMap (fun entry =>
    match entry.2 with
    | .file .. => some entry.1
    | _ => none)

def absolute (location : Location) : Path := ⟨'/' :: Text.join '/' location⟩

theorem mem_of_lookup {location : Location} {entry : Entry} {entries : List (Location × Entry)}
    (found : entries.lookup location = some entry) : (location, entry) ∈ entries := by
  induction entries with
  | nil => simp at found
  | cons head rest ih =>
    obtain ⟨place, old⟩ := head
    rw [List.lookup_cons] at found
    split at found
    · next same =>
      obtain rfl := eq_of_beq same
      simp only [Option.some.injEq] at found
      simp [found]
    · exact List.mem_cons_of_mem _ (ih found)

theorem mem_regularFiles {files : FileSystem} {location : Location} {contents : Contents}
    {executable : Bool} (found : files.find? location = some (.file contents executable)) :
    location ∈ files.regularFiles := by
  unfold find? at found
  split at found
  · simp at found
  · exact List.mem_filterMap.mpr ⟨_, mem_of_lookup found, rfl⟩

end FileSystem

end ParserRefresh
