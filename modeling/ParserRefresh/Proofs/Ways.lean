import ParserRefresh.Proofs.Nesting

/-! # Ways through declarations

A way follows declarations from the root of a tree to one of its modules and notes by which path
each file on it is told from others. Inlining reports a cycle at the end of such a way, when the
last file is on it already and the files before are distinct; and when it succeeds, no way leads to
a file twice. -/

namespace ParserRefresh.Modules

open Text Declaration

/-- The ways from `root` by declarations: the identity of the root and the canonical paths of the
modules that follow, and the unit at the end. -/
inductive Way (files : FileSystem) (root : SourceUnit) : List Path → SourceUnit → Prop where
  | root : Way files root [files.identity root.path] root
  | step {way : List Path} {unit module : SourceUnit} {identity : Path}
      (before : Way files root way unit) (declares : Declares files unit module)
      (canonical : files.canonical? module.path = some identity) :
      Way files root (way ++ [identity]) module

theorem cause_of_resolve {files : FileSystem} {directory declaredIn : Path} {name : Text}
    {fault : Fault} (missing : resolve files directory name declaredIn = .error fault) :
    fault = Cause.unresolvedModule name declaredIn (candidates directory name) := by
  unfold resolve at missing
  split at missing
  · cases missing
  · cases missing
    rfl

/-- A way goes on to every module that is declared at its end and can be read. -/
theorem Way.extend {files : FileSystem} {root : SourceUnit} {way : List Path} {path file : Path}
    {line text inner : Text} {number : Nat} {declaration : Declaration} {location : Location}
    (arrived : Way files root way ⟨path, text⟩) (listed : line ∈ lines text)
    (declared : parse? line number = some declaration)
    (found : resolve files path.directory declaration.name path = .ok file)
    (read : files.readText file = .ok (location, inner)) :
    Way files root (way ++ [FileSystem.absolute location]) ⟨file, trim inner⟩ := by
  have loaded : SourceUnit.load files file = .ok ⟨file, inner⟩ :=
    SourceUnit.load_eq_ok_iff.mpr ⟨location, read⟩
  exact .step arrived (.intro listed declared found loaded)
    (FileSystem.canonical?_of_readText read)

/-! ## The cycles that are reported -/

/-- A cycle is reported at the end of a way that goes through the file at hand. -/
theorem exists_way_of_moduleCycle {files : FileSystem} {unit : Text} {root : SourceUnit}
    {way chain : List Path} {path : Path} {text : Text} {number : Nat} {rows : List Text}
    {fault : Fault} (arrived : Way files root way ⟨path, text⟩) (distinct : Distinct way)
    (listed : rows ⊆ lines text)
    (failed : inlineLines files unit way path number rows = .error fault)
    (cycle : fault.cause? = some (.moduleCycle chain)) :
    ∃ front last module, chain = front ++ [last] ∧ Way files root (front ++ [last]) module ∧
      Distinct front ∧ onWay front last = true := by
  fun_induction inlineLines files unit way path number rows generalizing text with
  | case1 => cases failed
  | case2 way path number line rest undeclared ih =>
    exact ih arrived distinct (List.subset_of_cons_subset listed) (map_eq_error_iff.mp failed)
  | case3 way path number line rest declaration declared fault missing =>
    cases failed
    rw [cause_of_resolve missing] at cycle
    cases cycle
  | case4 =>
    cases failed
    cases cycle
  | case5 way path number line rest declaration declared file found location inner read =>
    rename_i there
    have next := arrived.extend (listed List.mem_cons_self) declared found read
    cases failed
    cases cycle
    exact ⟨way, FileSystem.absolute location, ⟨file, trim inner⟩, rfl, next, distinct, there⟩
  | case6 way path number line rest declaration declared file found location inner read _ new =>
    rename_i inside ih
    have next := arrived.extend (listed List.mem_cons_self) declared found read
    cases failed
    exact ih next (distinct.append (Bool.eq_false_iff.mpr new)) (List.Subset.refl _) inside
  | case7 way path number line rest declaration declared file found location inner read identity
      new body inlined ihBody =>
    rename_i ih
    exact ih arrived distinct (List.subset_of_cons_subset listed) (map_eq_error_iff.mp failed)

/-! ## The ways of a tree that is inlined -/

/-- When a file is inlined, so is every module that it declares, and none of them is on the way. -/
theorem exists_inlineLines_of_mem {files : FileSystem} {unit : Text} {way : List Path} {path : Path}
    {number : Nat} {rows out : List Text}
    (done : inlineLines files unit way path number rows = .ok out) {line : Text}
    (listed : line ∈ rows) {noted : Nat} {declaration : Declaration}
    (declared : parse? line noted = some declaration) {file : Path}
    (found : resolve files path.directory declaration.name path = .ok file) {location : Location}
    {text : Text} (read : files.readText file = .ok (location, text)) :
    onWay way (FileSystem.absolute location) = false ∧
      ∃ body, inlineLines files unit (way ++ [FileSystem.absolute location]) file 1
        (lines (trim text)) = .ok body := by
  induction rows generalizing number out with
  | nil => cases listed
  | cons first rest ih =>
    obtain ⟨after, remaining, here⟩ := exists_of_inlineLines_cons done
    rcases List.mem_cons.mp listed with rfl | later
    · obtain ⟨again, renumbered, name⟩ := exists_parse?_renumbered declared number
      rcases here with ⟨undeclared, -⟩ | ⟨_, _, _, _, body, declares, finds, reads, new, inner, -⟩
      · cases undeclared.symm.trans renumbered
      · cases renumbered.symm.trans declares
        rw [name] at finds
        cases found.symm.trans finds
        cases read.symm.trans reads
        exact ⟨new, body, inner⟩
    · exact ih remaining later

/-- When the root is inlined, so is the unit at the end of every way, and the files on the way are
distinct. -/
theorem Way.exists_inlineLines {files : FileSystem} {unit : Text} {root module : SourceUnit}
    {way : List Path} {out : List Text}
    (done : inlineLines files unit [files.identity root.path] root.path 1 (lines root.text) =
      .ok out) (arrived : Way files root way module) :
    Distinct way ∧ ∃ body, inlineLines files unit way module.path 1 (lines module.text) =
      .ok body := by
  induction arrived with
  | root => exact ⟨List.pairwise_singleton _ _, out, done⟩
  | step before declares canonical ih =>
    obtain ⟨distinct, body, inlined⟩ := ih
    cases declares with
    | intro listed declared found loaded =>
      obtain ⟨location, read⟩ := SourceUnit.load_eq_ok_iff.mp loaded
      cases (FileSystem.canonical?_of_readText read).symm.trans canonical
      obtain ⟨new, inner⟩ := exists_inlineLines_of_mem inlined listed declared found read
      exact ⟨distinct.append new, inner⟩

/-- A cycle that is reported is a way from the root whose files are distinct up to the last, which is
one of them; a way whose files are distinct is never reported; and when inlining succeeds, the files
on every way are distinct. -/
theorem inline_cycles (files : FileSystem) (unit : Text) (path : Path) (text : Text) :
    (∀ fault chain, inline files unit path text = .error fault →
      fault.cause? = some (.moduleCycle chain) →
      ∃ front last module, chain = front ++ [last] ∧ Way files ⟨path, text⟩ chain module ∧
        Distinct front ∧ (∃ earlier ∈ front, earlier.same last = true) ∧ ¬ Distinct chain) ∧
    (∀ out, inline files unit path text = .ok out →
      ∀ way module, Way files ⟨path, text⟩ way module → Distinct way) := by
  have start : Way files ⟨path, text⟩ [files.identity path] ⟨path, text⟩ := .root
  constructor
  · intro fault chain failed cycle
    obtain ⟨front, last, module, whole, arrived, distinct, there⟩ :=
      exists_way_of_moduleCycle start (List.pairwise_singleton _ _) (List.Subset.refl _)
        (map_eq_error_iff.mp failed) cycle
    obtain ⟨earlier, member, same⟩ := List.any_eq_true.mp there
    refine ⟨front, last, module, whole, whole ▸ arrived, distinct, ⟨earlier, member, same⟩, ?_⟩
    intro all
    rw [whole] at all
    have apart := (List.pairwise_append.mp all).2.2 earlier member last (List.mem_singleton_self _)
    rw [same] at apart
    cases apart
  · intro out done way module arrived
    obtain ⟨rows, inlined, -⟩ := map_eq_ok_iff.mp done
    exact (arrived.exists_inlineLines inlined).1

def crossing : FileSystem where
  entries :=
    [(["a.rs".toList], .file (.text "mod c;\n".toList) false),
     (["b.rs".toList], .file (.text "mod c;\n".toList) false),
     (["c.rs".toList], .file (.text "fn c();\n".toList) false),
     (["d.rs".toList], .file (.text "mod e;\n".toList) false),
     (["e.rs".toList], .link ⟨"d.rs".toList⟩)]
  workingDirectory := []

theorem inline_cycles_crossing :
    (inline crossing "  ".toList ⟨"parser.rs".toList⟩ "mod a;\nmod b;".toList =
        .ok ("mod a \x7b\n  mod c \x7b\n    fn c();\n  \x7d\n\x7d\n".toList ++
          "mod b \x7b\n  mod c \x7b\n    fn c();\n  \x7d\n\x7d".toList) ∧
      ∀ way module, Way crossing ⟨⟨"parser.rs".toList⟩, "mod a;\nmod b;".toList⟩ way module →
        Distinct way) ∧
    (inline crossing "  ".toList ⟨"parser.rs".toList⟩ "mod d;".toList =
        .error (Cause.moduleCycle
          [⟨"parser.rs".toList⟩, ⟨"/d.rs".toList⟩, ⟨"/d.rs".toList⟩]) ∧
      ∃ module, Way crossing ⟨⟨"parser.rs".toList⟩, "mod d;".toList⟩
        [⟨"parser.rs".toList⟩, ⟨"/d.rs".toList⟩, ⟨"/d.rs".toList⟩] module) := by
  obtain ⟨-, distinct⟩ :=
    inline_cycles crossing "  ".toList ⟨"parser.rs".toList⟩ "mod a;\nmod b;".toList
  obtain ⟨sound, -⟩ := inline_cycles crossing "  ".toList ⟨"parser.rs".toList⟩ "mod d;".toList
  have done : inline crossing "  ".toList ⟨"parser.rs".toList⟩ "mod a;\nmod b;".toList =
      .ok ("mod a \x7b\n  mod c \x7b\n    fn c();\n  \x7d\n\x7d\n".toList ++
        "mod b \x7b\n  mod c \x7b\n    fn c();\n  \x7d\n\x7d".toList) := by
    decide +kernel
  have failed : inline crossing "  ".toList ⟨"parser.rs".toList⟩ "mod d;".toList =
      .error (Cause.moduleCycle
        [⟨"parser.rs".toList⟩, ⟨"/d.rs".toList⟩, ⟨"/d.rs".toList⟩]) := by
    decide +kernel
  obtain ⟨_, _, module, -, arrived, -⟩ := sound _ _ failed rfl
  exact ⟨⟨done, distinct _ done⟩, failed, module, arrived⟩

end ParserRefresh.Modules
