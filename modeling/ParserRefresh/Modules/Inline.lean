import ParserRefresh.Modules.Resolve
import ParserRefresh.Source.Declaration

/-! # Inlining modules

Every declaration is replaced by a block that holds the text of the declared file, itself
inlined. The files on the way from the root to the text at hand are remembered, and a declaration
that leads back to one of them is a cycle. Along such a way each step enters a regular file that
was not on it, so the recursion ends although it follows what the files say. -/

namespace ParserRefresh.Modules

def onWay (way : List Path) (identity : Path) : Bool := way.any (fun path => path.same identity)

/-- The regular files that are not on the way. -/
def unvisited (files : FileSystem) (way : List Path) : List Location :=
  files.regularFiles.filter (fun location => !onWay way (FileSystem.absolute location))

theorem onWay_append {way : List Path} {identity new : Path} (there : onWay way identity) :
    onWay (way ++ [new]) identity := by
  simp only [onWay, List.any_append, Bool.or_eq_true]
  exact Or.inl there

theorem onWay_self (way : List Path) (new : Path) : onWay (way ++ [new]) new := by
  simp [onWay, Path.same]

theorem length_filter_lt {α : Type} {keep drop : α → Bool} {items : List α} {item : α}
    (weaker : ∀ other, drop other = true → keep other = true) (member : item ∈ items)
    (kept : keep item = true) (dropped : drop item = false) :
    (items.filter drop).length < (items.filter keep).length := by
  induction items with
  | nil => simp at member
  | cons head rest ih =>
    have le : (rest.filter drop).length ≤ (rest.filter keep).length := by
      simp only [← List.countP_eq_length_filter]
      exact List.countP_mono_left (fun other _ => weaker other)
    rcases List.mem_cons.mp member with rfl | inRest
    · simp only [List.filter_cons, kept, dropped, if_true, Bool.false_eq_true, if_false,
        List.length_cons]
      omega
    · have smaller := ih inRest
      rw [List.filter_cons, List.filter_cons]
      split
      · next stays =>
        rw [if_pos (weaker head stays)]
        exact Nat.succ_lt_succ smaller
      · split
        · exact Nat.lt_succ_of_lt smaller
        · exact smaller

/-- Entering a regular file that is not on the way leaves fewer files to enter. -/
theorem unvisited_lt {files : FileSystem} {way : List Path} {location : Location}
    (regular : location ∈ files.regularFiles)
    (new : onWay way (FileSystem.absolute location) = false) :
    (unvisited files (way ++ [FileSystem.absolute location])).length <
      (unvisited files way).length := by
  refine length_filter_lt ?_ regular ?_ ?_
  · intro other notOn
    simp only [Bool.not_eq_eq_eq_not, Bool.not_true] at notOn ⊢
    cases there : onWay way (FileSystem.absolute other) with
    | false => rfl
    | true => rw [onWay_append there] at notOn; exact notOn
  · simp [new]
  · simp [onWay_self]

/-- The most lines that a file has, without the blank ones at its ends. -/
def longestText (files : FileSystem) : Nat :=
  (files.entries.map (fun entry =>
    match entry.2 with
    | .file (.text chars) _ => (Text.lines (Text.trim chars)).length
    | _ => 0)).max?.getD 0

theorem length_lines_le_longestText {files : FileSystem} {path : Path} {location : Location}
    {text : Text} (read : files.readText path = .ok (location, text)) :
    (Text.lines (Text.trim text)).length ≤ longestText files := by
  obtain ⟨executable, found⟩ := FileSystem.exists_find?_of_readText read
  unfold FileSystem.find? at found
  split at found
  · simp at found
  · exact List.le_max?_getD_of_mem (List.mem_map_of_mem (FileSystem.mem_of_lookup found))

/-- The lines that take the place of a declaration, given the inlined text of its file. -/
def block (indentUnit : Text) (declaration : Declaration) (body : Text) : List Text :=
  declaration.attributeLines ++ declaration.openingLine ::
    Text.indentLines (declaration.indent ++ indentUnit) (Text.lines body) ++
      [declaration.closingLine]

theorem lt_of_fewer {length others bound fewer more : Nat} (less : fewer < more)
    (short : length ≤ bound) :
    length + fewer * (bound + 1) < others + more * (bound + 1) :=
  calc length + fewer * (bound + 1)
    _ < (fewer + 1) * (bound + 1) := by
      rw [Nat.succ_mul]
      omega
    _ ≤ more * (bound + 1) := Nat.mul_le_mul_right _ less
    _ ≤ others + more * (bound + 1) := Nat.le_add_left _ _

/-- Inlines the lines of the file at `path` from the line with the given number on; `way` leads
from the root to this file. -/
def inlineLines (files : FileSystem) (indentUnit : Text) (way : List Path) (path : Path)
    (number : Nat) (rows : List Text) : Except Fault (List Text) :=
  match rows with
  | [] => .ok []
  | line :: rest =>
    match Declaration.parse? line number with
    | none =>
      (inlineLines files indentUnit way path (number + 1) rest).map (line :: ·)
    | some declaration =>
      match resolve files path.directory declaration.name path with
      | .error fault => .error fault
      | .ok file =>
        match _read : files.readText file with
        | .error refusal => .error (Cause.file file refusal.message)
        | .ok (location, text) =>
          let identity := FileSystem.absolute location
          if _cycle : onWay way identity then .error (Cause.moduleCycle (way ++ [identity]))
          else
            match inlineLines files indentUnit (way ++ [identity]) file 1
                (Text.lines (Text.trim text)) with
            | .error fault => .error fault
            | .ok body =>
              (inlineLines files indentUnit way path (number + 1) rest).map
                (block indentUnit declaration (Text.unlines body) ++ ·)
termination_by rows.length + (unvisited files way).length * (longestText files + 1)
decreasing_by
  · exact Nat.lt_of_lt_of_eq (Nat.lt_succ_self _) (Nat.succ_add _ _).symm
  · have fewer := unvisited_lt (FileSystem.mem_regularFiles_of_readText _read)
      (Bool.eq_false_iff.mpr _cycle)
    have short := length_lines_le_longestText _read
    exact lt_of_fewer fewer short
  · exact Nat.lt_of_lt_of_eq (Nat.lt_succ_self _) (Nat.succ_add _ _).symm

/-- Inlines every module that a text declares, directly or through others, where the text was
read from `path`. -/
def inline (files : FileSystem) (indentUnit : Text) (path : Path) (text : Text) :
    Except Fault Text :=
  (inlineLines files indentUnit [files.identity path] path 1 (Text.lines text)).map Text.unlines

end ParserRefresh.Modules
