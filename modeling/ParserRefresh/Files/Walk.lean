import ParserRefresh.Files.Basic

/-! # Finding what a path names

A path is followed part by part. A link is replaced by its target, at most forty times. Whether
the last link is followed, and whether a name with a separator behind it may be new, depends on
what the path is wanted for. -/

namespace ParserRefresh

/-- What a path is wanted for. -/
inductive Goal where
  /-- To use what is there, links followed. -/
  | use
  /-- To write a file that may be new, links followed. -/
  | create
  /-- To name an entry that may be new; a link at the end stands for itself. -/
  | name
  deriving DecidableEq

/-- Where a path leads. -/
inductive Place where
  | present (location : Location) (entry : Entry)
  /-- A name that is free in a directory that is there. -/
  | vacant (location : Location)

namespace FileSystem

def linkLimit : Nat := 40

def nameLimit : Nat := 255

/-- The number of bytes from which a path is too long. -/
def pathLimit : Nat := 4096

/-- The most parts that the target of a link has. -/
def longestTarget (files : FileSystem) : Nat :=
  (files.entries.map (fun entry =>
    match entry.2 with
    | .link target => (Text.split '/' target.text).length
    | _ => 0)).max?.getD 0

theorem length_split_le_longestTarget {files : FileSystem} {location : Location} {target : Path}
    (found : files.find? location = some (.link target)) :
    (Text.split '/' target.text).length ≤ files.longestTarget := by
  unfold find? at found
  split at found
  · simp at found
  · exact List.le_max?_getD_of_mem (List.mem_map_of_mem (mem_of_lookup found))

/-- Follows the parts of a path from the location `here`. -/
def walk (files : FileSystem) (goal : Goal) (links : Nat) (here : Location) (parts : List Text) :
    Except Refusal Place :=
  match parts with
  | [] =>
    match files.find? here with
    | some entry => .ok (.present here entry)
    | none => .error .noEntry
  | part :: rest =>
    match files.find? here with
    | some .directory =>
      if Path.isIdle part then walk files goal links here rest
      else if part = ['.', '.'] then walk files goal links here.dropLast rest
      else if nameLimit < Text.utf8Size part then .error .nameTooLong
      else
        let there := here ++ [part]
        let atEnd := rest.all List.isEmpty
        if goal = .create ∧ atEnd ∧ rest ≠ [] then .error .isDirectory
        else
          match _found : files.find? there with
          | none => if atEnd then .ok (.vacant there) else .error .noEntry
          | some (.link target) =>
            if goal = .name ∧ rest = [] then .ok (.present there (.link target))
            else
              match links with
              | 0 => .error .tooManyLinks
              | links + 1 =>
                walk files goal links (if target.isAbsolute then [] else here)
                  (Text.split '/' target.text ++ rest)
          | some _ => walk files goal links there rest
    | _ => .error .notDirectory
termination_by parts.length + links * (files.longestTarget + 1)
decreasing_by
  · exact Nat.lt_of_lt_of_eq (Nat.lt_succ_self _) (Nat.succ_add _ _).symm
  · exact Nat.lt_of_lt_of_eq (Nat.lt_succ_self _) (Nat.succ_add _ _).symm
  · have := length_split_le_longestTarget _found
    rw [List.length_append, Nat.succ_mul, List.length_cons]
    omega
  · exact Nat.lt_of_lt_of_eq (Nat.lt_succ_self _) (Nat.succ_add _ _).symm

/-- Where a path leads, read from the working directory. -/
def locate (files : FileSystem) (goal : Goal) (path : Path) : Except Refusal Place :=
  if path.text.isEmpty then .error .noEntry
  else if path.text.contains '\x00' then .error .holdsNul
  else if pathLimit ≤ Text.utf8Size path.text then .error .nameTooLong
  else
    files.walk goal linkLimit (if path.isAbsolute then [] else files.workingDirectory)
      (Text.split '/' path.text)

/-- The entry that a path names, and its location. -/
def resolve (files : FileSystem) (path : Path) : Except Refusal (Location × Entry) :=
  match files.locate .use path with
  | .ok (.present location entry) => .ok (location, entry)
  | .ok (.vacant _) => .error .noEntry
  | .error refusal => .error refusal

def isFile (files : FileSystem) (path : Path) : Bool :=
  match files.resolve path with
  | .ok (_, .file ..) => true
  | _ => false

def isDirectory (files : FileSystem) (path : Path) : Bool :=
  match files.resolve path with
  | .ok (_, .directory) => true
  | _ => false

/-- The path without links, doubled separators and dots, if it names anything. -/
def canonical? (files : FileSystem) (path : Path) : Option Path :=
  match files.resolve path with
  | .ok (location, _) => some (absolute location)
  | .error _ => none

def readContents (files : FileSystem) (path : Path) : Except Refusal (Location × Contents) :=
  match files.resolve path with
  | .ok (location, .file contents _) => .ok (location, contents)
  | .ok (_, .directory) => .error .isDirectory
  | .ok (_, .link _) => .error .noEntry
  | .error refusal => .error refusal

def readText (files : FileSystem) (path : Path) : Except Refusal (Location × Text) :=
  match files.readContents path with
  | .ok (location, .text chars) => .ok (location, chars)
  | .ok (_, .binary _) => .error .notUtf8
  | .error refusal => .error refusal

/-- What a walk finds does stand where it ends. -/
theorem find?_of_walk {files : FileSystem} {goal : Goal} {links : Nat} {here location : Location}
    {parts : List Text} {entry : Entry}
    (found : files.walk goal links here parts = .ok (.present location entry)) :
    files.find? location = some entry := by
  fun_induction walk files goal links here parts <;> grind

/-- What is read from a file does stand in it. -/
theorem exists_find?_of_readText {files : FileSystem} {path : Path} {location : Location}
    {chars : Text} (read : files.readText path = .ok (location, chars)) :
    ∃ executable, files.find? location = some (.file (.text chars) executable) := by
  unfold readText at read
  split at read <;> simp at read
  next contents =>
    obtain ⟨rfl, rfl⟩ := read
    unfold readContents at contents
    split at contents <;> simp at contents
    next resolved =>
      obtain ⟨rfl, rfl⟩ := contents
      unfold resolve at resolved
      split at resolved <;> simp at resolved
      next located =>
        obtain ⟨rfl, rfl⟩ := resolved
        unfold locate at located
        split at located
        · simp at located
        · split at located
          · simp at located
          · split at located
            · simp at located
            · exact ⟨_, find?_of_walk located⟩

theorem mem_regularFiles_of_readText {files : FileSystem} {path : Path} {location : Location}
    {chars : Text} (read : files.readText path = .ok (location, chars)) :
    location ∈ files.regularFiles :=
  (exists_find?_of_readText read).elim fun _ found => mem_regularFiles found

end FileSystem

end ParserRefresh
