import Mathlib.Data.List.Perm.Subperm
import ParserRefresh.Proofs.Inlining

/-! # How deep inlining goes

A call of the inliner is made for the root or for a module that the file at hand declares, and is
given its ancestry: the identities of the files that are being inlined around it. These are
distinct, and all but the root's are canonical paths of regular files, so there are at most as many
of them as there are regular files, and one. Inlining that is cut off at that depth ends therefore
as it does without a limit. -/

namespace ParserRefresh

theorem Path.same_self (path : Path) : path.same path = true := beq_self_eq_true _

theorem SourceUnit.load_eq_ok_iff {files : FileSystem} {path : Path} {text : Text} :
    SourceUnit.load files path = .ok ⟨path, text⟩ ↔
      ∃ location, files.readText path = .ok (location, text) := by
  unfold SourceUnit.load
  cases files.readText path with
  | error refusal => simp
  | ok found =>
    obtain ⟨location, chars⟩ := found
    simp

theorem SourceUnit.exists_of_load {files : FileSystem} {path : Path} {unit : SourceUnit}
    (loaded : SourceUnit.load files path = .ok unit) :
    ∃ location text, files.readText path = .ok (location, text) ∧ unit = ⟨path, text⟩ := by
  unfold SourceUnit.load at loaded
  split at loaded
  · next location text read =>
    cases loaded
    exact ⟨location, text, read, rfl⟩
  · cases loaded

/-- A file that can be read is where its canonical path says. -/
theorem FileSystem.canonical?_of_readText {files : FileSystem} {path : Path} {location : Location}
    {text : Text} (read : files.readText path = .ok (location, text)) :
    files.canonical? path = some (absolute location) := by
  unfold readText readContents at read
  unfold canonical?
  generalize files.resolve path = resolved at read ⊢
  cases resolved with
  | error refusal => cases read
  | ok found =>
    obtain ⟨place, entry⟩ := found
    cases entry with
    | file contents executable =>
      cases contents with
      | text chars => cases read; rfl
      | binary bytes => cases read
    | directory => cases read
    | link target => cases read

theorem FileSystem.identity_of_readText {files : FileSystem} {path : Path} {location : Location}
    {text : Text} (read : files.readText path = .ok (location, text)) :
    files.identity path = absolute location := by
  rw [identity, canonical?_of_readText read]
  rfl

namespace Modules

open Text Declaration

/-! ## Calls -/

/-- A line of `unit` declares a module, which is the file that is found for it with its text
trimmed. -/
inductive Declares (files : FileSystem) (unit : SourceUnit) : SourceUnit → Prop where
  | intro {line text : Text} {number : Nat} {declaration : Declaration} {file : Path}
      (listed : line ∈ lines unit.text) (declared : parse? line number = some declaration)
      (found : resolve files unit.directory declaration.name unit.path = .ok file)
      (loaded : SourceUnit.load files file = .ok ⟨file, text⟩) :
      Declares files unit ⟨file, trim text⟩

def Distinct (way : List Path) : Prop := way.Pairwise (fun path other => path.same other = false)

theorem Distinct.append {way : List Path} {identity : Path} (distinct : Distinct way)
    (new : onWay way identity = false) : Distinct (way ++ [identity]) := by
  refine List.pairwise_append.mpr ⟨distinct, List.pairwise_singleton _ _, ?_⟩
  intro path member other last
  rw [List.mem_singleton.mp last]
  exact Bool.eq_false_iff.mpr (List.any_eq_false.mp new path member)

/-- The calls that inlining `root` makes, each with its ancestry and the unit it is made for. A call
that finds its own file in its ancestry makes no other. -/
inductive Call (files : FileSystem) (root : SourceUnit) : List Path → SourceUnit → Prop where
  | root : Call files root [] root
  | nested {ancestry : List Path} {unit module : SourceUnit} (outer : Call files root ancestry unit)
      (new : onWay ancestry (files.identity unit.path) = false)
      (declares : Declares files unit module) :
      Call files root (ancestry ++ [files.identity unit.path]) module

/-- What every ancestry is like. -/
structure IsAncestry (files : FileSystem) (root : Path) (ancestry : List Path) : Prop where
  distinct : Distinct ancestry
  first : ∀ identity ∈ ancestry.head?, identity = files.identity root
  regular : ∀ identity ∈ ancestry.tail, ∃ location ∈ files.regularFiles,
    identity = FileSystem.absolute location

variable {files : FileSystem} {root : SourceUnit} {ancestry : List Path} {called : SourceUnit}

theorem Declares.exists_location {unit module : SourceUnit}
    (declares : Declares files unit module) :
    ∃ location ∈ files.regularFiles, files.identity module.path = FileSystem.absolute location := by
  cases declares with
  | intro listed declared found loaded =>
    obtain ⟨location, read⟩ := SourceUnit.load_eq_ok_iff.mp loaded
    exact ⟨location, FileSystem.mem_regularFiles_of_readText read,
      FileSystem.identity_of_readText read⟩

/-- A call for another unit than the root is made for a regular file. -/
theorem Call.root_or_regular (call : Call files root ancestry called) :
    (ancestry = [] ∧ called = root) ∨
      (ancestry ≠ [] ∧ ∃ location ∈ files.regularFiles,
        files.identity called.path = FileSystem.absolute location) := by
  cases call with
  | root => exact .inl ⟨rfl, rfl⟩
  | nested outer new declares => exact .inr ⟨by simp, declares.exists_location⟩

theorem Call.isAncestry (call : Call files root ancestry called) :
    IsAncestry files root.path ancestry := by
  induction call with
  | root => exact ⟨List.Pairwise.nil, by simp, by simp⟩
  | nested outer new declares ih =>
    obtain ⟨distinct, first, regular⟩ := ih
    rcases outer.root_or_regular with ⟨rfl, rfl⟩ | ⟨some, file⟩
    · exact ⟨List.pairwise_singleton _ _, by simp, by simp⟩
    · refine ⟨distinct.append new, ?_, ?_⟩
      · rwa [List.head?_append_of_ne_nil _ some]
      · intro identity member
        rw [List.tail_append_of_ne_nil some] at member
        rcases List.mem_append.mp member with early | last
        · exact regular identity early
        · rw [List.mem_singleton.mp last]
          exact file

theorem Distinct.nodup {way : List Path} (distinct : Distinct way) : way.Nodup := by
  refine distinct.imp (fun apart same => ?_)
  rw [same, Path.same_self] at apart
  cases apart

/-- An ancestry is at most as long as there are regular files, and one longer for the root. -/
theorem IsAncestry.length_le {root : Path} (sound : IsAncestry files root ancestry) :
    ancestry.length ≤ files.regularFiles.length + 1 := by
  have nodup : ancestry.tail.Nodup := sound.distinct.nodup.sublist (List.tail_sublist _)
  have subset : ancestry.tail ⊆ files.regularFiles.map FileSystem.absolute := by
    intro identity member
    obtain ⟨location, regular, rfl⟩ := sound.regular identity member
    exact List.mem_map_of_mem regular
  have le := (nodup.subperm subset).length_le
  rw [List.length_tail, List.length_map] at le
  omega

/-! ## Inlining up to a depth -/

/-- The lines that take the place of the lines of a file, when the text of a module is asked for. An
answer may fail to come. -/
def expand (files : FileSystem) (indentUnit : Text)
    (ask : SourceUnit → Option (Except Fault Text)) (path : Path) :
    Nat → List Text → Option (Except Fault (List Text))
  | _, [] => some (.ok [])
  | number, line :: rest =>
    match parse? line number with
    | none => (expand files indentUnit ask path (number + 1) rest).map (·.map (line :: ·))
    | some declaration =>
      match resolve files path.directory declaration.name path with
      | .error fault => some (.error fault)
      | .ok file =>
        match SourceUnit.load files file with
        | .error fault => some (.error fault)
        | .ok module =>
          match ask ⟨module.path, trim module.text⟩ with
          | none => none
          | some (.error fault) => some (.error fault)
          | some (.ok body) =>
            (expand files indentUnit ask path (number + 1) rest).map
              (·.map (block indentUnit declaration body ++ ·))

/-- Inlines a unit with calls that lie in each other at most as deep as a number says. There is no
outcome when they have to go deeper. -/
def inlineWithin (files : FileSystem) (indentUnit : Text) :
    Nat → List Path → SourceUnit → Option (Except Fault Text)
  | 0, _, _ => none
  | depth + 1, ancestry, unit =>
    let identity := files.identity unit.path
    if onWay ancestry identity then some (.error (Cause.moduleCycle (ancestry ++ [identity])))
    else
      (expand files indentUnit (inlineWithin files indentUnit depth (ancestry ++ [identity]))
        unit.path 1 (lines unit.text)).map (·.map unlines)

/-- Inlines a unit below an ancestry, without a limit. -/
def inlineBelow (files : FileSystem) (indentUnit : Text) (ancestry : List Path)
    (unit : SourceUnit) : Except Fault Text :=
  let identity := files.identity unit.path
  if onWay ancestry identity then .error (Cause.moduleCycle (ancestry ++ [identity]))
  else
    (inlineLines files indentUnit (ancestry ++ [identity]) unit.path 1 (lines unit.text)).map unlines

/-- A file is expanded to its inlined lines when each module that it declares is answered by its
inlined text. No other answer matters. -/
theorem expand_eq {indentUnit : Text} {ask : SourceUnit → Option (Except Fault Text)}
    {way : List Path} {unit : SourceUnit} {number : Nat} {rows : List Text}
    (listed : rows ⊆ lines unit.text)
    (answers : ∀ module, Declares files unit module →
      ask module = some (inlineBelow files indentUnit way module)) :
    expand files indentUnit ask unit.path number rows =
      some (inlineLines files indentUnit way unit.path number rows) := by
  induction rows generalizing number with
  | nil => rw [expand, inlineLines]
  | cons line rest ih =>
    have later := @ih (number + 1) (List.subset_of_cons_subset listed)
    rw [expand, inlineLines_cons, later]
    cases declared : parse? line number with
    | none => rfl
    | some declaration =>
      dsimp only
      cases found : resolve files unit.path.directory declaration.name unit.path with
      | error fault => rfl
      | ok file =>
        dsimp only
        unfold SourceUnit.load
        cases read : files.readText file with
        | error refusal => rfl
        | ok entry =>
          obtain ⟨location, text⟩ := entry
          have declares : Declares files unit ⟨file, trim text⟩ :=
            .intro (listed List.mem_cons_self) declared found
              (SourceUnit.load_eq_ok_iff.mpr ⟨location, read⟩)
          dsimp only
          rw [answers _ declares, inlineBelow, FileSystem.identity_of_readText read]
          dsimp only
          cases onWay way (FileSystem.absolute location) with
          | true => rfl
          | false =>
            cases inlineLines files indentUnit (way ++ [FileSystem.absolute location]) file 1
              (lines (trim text)) <;> rfl

/-- A call ends within the depth that its ancestry leaves, as it does without a limit. -/
theorem Call.inlineWithin_eq (call : Call files root ancestry called) (indentUnit : Text)
    {depth : Nat} (enough : files.regularFiles.length + 2 ≤ depth + ancestry.length) :
    inlineWithin files indentUnit depth ancestry called =
      some (inlineBelow files indentUnit ancestry called) := by
  induction depth generalizing ancestry called with
  | zero =>
    have le := call.isAncestry.length_le
    omega
  | succ depth ih =>
    rw [inlineWithin, inlineBelow]
    split
    · rfl
    · next new =>
      rw [expand_eq (List.Subset.refl _)]
      · rfl
      · intro module declares
        refine ih (call.nested (Bool.eq_false_iff.mpr new) declares) ?_
        rw [List.length_append, List.length_singleton]
        omega

/-- At every call of the inliner the ancestry is sound, so the call lies at most as deep as there
are regular files, and two; and inlining that is cut off at this depth or below it comes to the end
that inlining comes to. -/
theorem inline_ends (files : FileSystem) (indentUnit : Text) (path : Path) (text : Text) :
    (∀ ancestry called, Call files ⟨path, text⟩ ancestry called →
      IsAncestry files path ancestry ∧ ancestry.length + 1 ≤ files.regularFiles.length + 2) ∧
    ∀ depth, files.regularFiles.length + 2 ≤ depth →
      inlineWithin files indentUnit depth [] ⟨path, text⟩ =
        some (inline files indentUnit path text) := by
  constructor
  · intro ancestry called call
    have le := call.isAncestry.length_le
    exact ⟨call.isAncestry, by omega⟩
  · intro depth enough
    exact Call.root.inlineWithin_eq indentUnit enough

/-- A link that leads back to the directory that it lies in, beside a module that declares it. -/
def linkedBack : FileSystem where
  entries :=
    [(["d".toList], .link ⟨['.']⟩), (["mod.rs".toList], .file (.text "mod d;\n".toList) false)]
  workingDirectory := []

theorem declares_linkedBack {path file : Path}
    (found : resolve linkedBack path.directory ['d'] path = .ok file)
    (loaded : SourceUnit.load linkedBack file = .ok ⟨file, "mod d;\n".toList⟩) :
    Declares linkedBack ⟨path, "mod d;".toList⟩ ⟨file, "mod d;".toList⟩ := by
  have declared : parse? "mod d;".toList 1 = some ⟨[], [], none, ['d'], 1⟩ := by decide +kernel
  have listed : "mod d;".toList ∈ lines (SourceUnit.text ⟨path, "mod d;".toList⟩) :=
    List.mem_singleton_self _
  exact .intro listed declared found loaded

/-- The paths by which the module is found grow with every call, and the third call is the last. -/
theorem inline_ends_linkedBack :
    (∃ called, Call linkedBack ⟨⟨"parser.rs".toList⟩, "mod d;".toList⟩
        [⟨"parser.rs".toList⟩, ⟨"/mod.rs".toList⟩] called ∧
      IsAncestry linkedBack ⟨"parser.rs".toList⟩ [⟨"parser.rs".toList⟩, ⟨"/mod.rs".toList⟩]) ∧
    inlineWithin linkedBack "  ".toList 2 [] ⟨⟨"parser.rs".toList⟩, "mod d;".toList⟩ = none ∧
    inlineWithin linkedBack "  ".toList 3 [] ⟨⟨"parser.rs".toList⟩, "mod d;".toList⟩ =
      some (inline linkedBack "  ".toList ⟨"parser.rs".toList⟩ "mod d;".toList) := by
  obtain ⟨sound, ends⟩ :=
    inline_ends linkedBack "  ".toList ⟨"parser.rs".toList⟩ "mod d;".toList
  have first : Declares linkedBack ⟨⟨"parser.rs".toList⟩, "mod d;".toList⟩
      ⟨⟨"d/mod.rs".toList⟩, "mod d;".toList⟩ :=
    declares_linkedBack (by decide +kernel) (by decide +kernel)
  have second : Declares linkedBack ⟨⟨"d/mod.rs".toList⟩, "mod d;".toList⟩
      ⟨⟨"d/d/mod.rs".toList⟩, "mod d;".toList⟩ :=
    declares_linkedBack (by decide +kernel) (by decide +kernel)
  have root : linkedBack.identity ⟨"parser.rs".toList⟩ = ⟨"parser.rs".toList⟩ := by decide +kernel
  have module : linkedBack.identity ⟨"d/mod.rs".toList⟩ = ⟨"/mod.rs".toList⟩ := by decide +kernel
  have call := (Call.root.nested (by decide +kernel) first).nested (by decide +kernel) second
  dsimp only at call
  rw [root, module] at call
  exact ⟨⟨_, call, (sound _ _ call).1⟩, by decide +kernel, ends 3 (by decide)⟩

end Modules

end ParserRefresh
