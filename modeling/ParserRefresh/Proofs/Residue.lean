import ParserRefresh.Proofs.CommentScan
import ParserRefresh.Proofs.Inlining
import ParserRefresh.Proofs.TestBlocks

/-! # What is left in a flattened text

Modules and test blocks are looked for before comments are stripped, on whole lines. After these
two passes no line declares a module and none is a sentinel. Stripping comments brings such a line
back exactly where it stood in front of a comment that is stripped, and leaving out crate
attributes does not take it away. -/

namespace ParserRefresh

open Text

/-- The passes that come before comments are stripped. -/
def beforeComments (files : FileSystem) (path : Path) (options : PreludeOptions) : Pass :=
  ((Pass.stripRules options.markers).and (Pass.inlineModules files options.indentUnit path)).and
    (Pass.stripTests options.markers.testSentinel)

/-! ## The passes before comments are stripped -/

section BeforeComments

variable {files : FileSystem} {path : Path} {options : PreludeOptions} {text source : Text}

/-- The text before comments are stripped is put together from lines that a test scan keeps. -/
theorem exists_scan_of_beforeComments
    (before : (beforeComments files path options text).result = .ok source) :
    ∃ start rows, Modules.inlineLines files options.indentUnit [files.identity path] path 1
        (lines start) = .ok rows ∧
      unlines (Tests.scan options.markers.testSentinel none 1 (lines (unlines rows))).kept =
        source := by
  obtain ⟨inlined, first, stripped⟩ := Pass.result_and_eq_ok_iff.mp before
  obtain ⟨start, -, inlines⟩ := Pass.result_and_eq_ok_iff.mp first
  obtain ⟨rows, done, rfl⟩ := map_eq_ok_iff.mp inlines
  exact ⟨start, rows, done, (Tests.result_strip_eq_ok_iff.mp stripped).2⟩

theorem parse?_eq_none_of_beforeComments (spaces : ∀ c ∈ options.indentUnit, isIndent c = true)
    (before : (beforeComments files path options text).result = .ok source) {row : Text}
    (member : row ∈ lines source) (number : Nat) : Declaration.parse? row number = none := by
  obtain ⟨start, rows, inlined, rfl⟩ := exists_scan_of_beforeComments before
  have plain := Modules.isPlain_of_mem_inlineLines spaces (fun _ => isLine_of_mem_lines) inlined
  have cut : ∀ row ∈ lines (unlines rows), Modules.IsPlain row := by
    rwa [forall_mem_lines_unlines Modules.isPlain_nil (fun row there => (plain row there).1)]
  have kept : ∀ row ∈ (Tests.scan options.markers.testSentinel none 1
      (lines (unlines rows))).kept, Modules.IsPlain row :=
    fun row there => cut row ((Tests.kept_sublist _).subset there)
  rw [← forall_mem_lines_unlines Modules.isPlain_nil (fun row there => (kept row there).1)] at kept
  exact (kept row member).2 number

theorem trim_ne_of_beforeComments (some : options.markers.testSentinel ≠ [])
    (before : (beforeComments files path options text).result = .ok source) {row : Text}
    (member : row ∈ lines source) : trim row ≠ options.markers.testSentinel := by
  obtain ⟨start, rows, inlined, rfl⟩ := exists_scan_of_beforeComments before
  revert row
  rw [forall_mem_lines_unlines (p := fun row => trim row ≠ options.markers.testSentinel) some.symm
    (fun row there => isLine_of_mem_lines ((Tests.kept_sublist _).subset there))]
  intro row there
  exact Tests.trim_ne_of_mem_kept there

end BeforeComments

/-! ## Stripping comments -/

/-- Take a property of lines that white space at the end does not change. If all lines have it,
they have it after comments are stripped when what stands in front of a stripped comment has it. -/
theorem forall_stripLine_iff {p : Text → Prop} {kept rows : List Text}
    (ends : ∀ row, p (trimEnd row) ↔ p row) (blank : p []) (clean : ∀ row ∈ rows, p row) :
    (∀ out ∈ rows.filterMap (Comments.stripLine kept), p out) ↔
      ∀ row ∈ rows, ∀ code comment, Comments.split? row = some (code, comment) →
        Comments.isKept kept comment = false → p code := by
  constructor
  · intro all row there code comment found notKept
    cases space : isBlank code with
    | true =>
      rw [← ends, trimEnd_eq_nil_iff.mpr space]
      exact blank
    | false =>
      have stripped : Comments.stripLine kept row = some (trimEnd code) :=
        Comments.stripLine_eq_some_iff.mpr (Or.inr ⟨code, comment, found, notKept, space, rfl⟩)
      exact (ends code).mp (all _ (List.mem_filterMap.mpr ⟨row, there, stripped⟩))
  · intro all out member
    obtain ⟨row, there, stripped⟩ := List.mem_filterMap.mp member
    rcases Comments.stripLine_eq_some_iff.mp stripped with
      ⟨-, rfl⟩ | ⟨code, comment, found, notKept, -, rfl⟩
    · exact clean _ there
    · exact (ends code).mpr (all row there code comment found notKept)

/-! ## Leaving out crate attributes -/

theorem exists_cons_of_covers {filter : CrateAttributes} {row : Text}
    (covered : filter.covers row = true) : ∃ rest, row = '#' :: '!' :: '[' :: rest := by
  unfold CrateAttributes.covers at covered
  split at covered
  · cases covered
  · next rest found => exact ⟨rest, after?_eq_some_iff.mp found⟩

/-- Leaving out crate attributes changes nothing for a property that all crate attributes have. -/
theorem forall_mem_stripCrateAttributes_iff [PatternLibrary] {p : Text → Prop}
    {names : List Text} {pass : Pass} {text out : Text} (blank : p [])
    (covered : ∀ rest, p ('#' :: '!' :: '[' :: rest))
    (built : Pass.stripCrateAttributes names = .ok pass) (done : (pass text).result = .ok out) :
    (∀ row ∈ lines out, p row) ↔ ∀ row ∈ lines text, p row := by
  unfold Pass.stripCrateAttributes at built
  split at built
  · cases built
    cases done
    exact Iff.rfl
  · obtain ⟨filter, -, rfl⟩ := map_eq_ok_iff.mp built
    cases done
    rw [CrateAttributes.strip, forall_mem_lines_unlines blank
      (fun row there => isLine_of_mem_lines (List.mem_of_mem_filter there))]
    constructor
    · intro all row there
      cases removed : filter.covers row with
      | true =>
        obtain ⟨rest, rfl⟩ := exists_cons_of_covers removed
        exact covered rest
      | false => exact all row (List.mem_filter.mpr ⟨there, by rw [removed]; rfl⟩)
    · intro all row there
      exact all row (List.mem_of_mem_filter there)

/-! ## The flattened text -/

/-- A property that all lines have before comments are stripped is one of all lines of the
flattened text exactly when what stands in front of a stripped comment has it. -/
theorem forall_mem_flatten_iff [PatternLibrary] {p : Text → Prop} {files : FileSystem} {path : Path}
    {options : PreludeOptions} {pass : Pass} {text flat : Text}
    (ends : ∀ row, p (trimEnd row) ↔ p row) (blank : p [])
    (covered : ∀ rest, p ('#' :: '!' :: '[' :: rest))
    (clean : ∀ source, (beforeComments files path options text).result = .ok source →
      ∀ row ∈ lines source, p row)
    (built : flatten files path options = .ok pass) (done : (pass text).result = .ok flat) :
    (∀ row ∈ lines flat, p row) ↔
      ∀ source, (beforeComments files path options text).result = .ok source →
        ∀ row ∈ lines source, ∀ code comment, Comments.split? row = some (code, comment) →
          Comments.isKept options.keptComments comment = false → p code := by
  obtain ⟨attributes, filtering, rfl⟩ := map_eq_ok_iff.mp built
  obtain ⟨stripped, first, last⟩ := Pass.result_and_eq_ok_iff.mp done
  obtain ⟨source, before, comments⟩ := Pass.result_and_eq_ok_iff.mp first
  have before : (beforeComments files path options text).result = .ok source := before
  cases comments
  rw [forall_mem_stripCrateAttributes_iff blank covered filtering last, Comments.strip,
    forall_mem_lines_unlines blank
      (fun _ => Comments.isLine_of_mem_filterMap (fun _ => isLine_of_mem_lines)),
    forall_stripLine_iff ends blank (clean source before), before]
  constructor
  · intro all same again
    cases again
    exact all
  · intro all
    exact all source rfl

/-- With the default options the passes can be built if no pattern is refused, and they succeed
when those before comments are stripped do. -/
theorem exists_flatten_default {files : FileSystem} {path : Path} {text source : Text}
    (before : (beforeComments files path {} text).result = .ok source) :
    letI := PatternLibrary.lenient
    ∃ pass flat, flatten files path {} = .ok pass ∧ (pass text).result = .ok flat :=
  ⟨((beforeComments files path {}).and (Pass.stripComments ({} : PreludeOptions).keptComments)).and
      (Pass.ofFunction (CrateAttributes.strip ⟨({} : PreludeOptions).crateAttributes⟩)), _, rfl,
    Pass.result_and_eq_ok_iff.mpr ⟨_, Pass.result_and_eq_ok_iff.mpr ⟨source, before, rfl⟩, rfl⟩⟩

/-! ## Declarations -/

theorem parse?_crateAttribute (rest : Text) (number : Nat) :
    Declaration.parse? ('#' :: '!' :: '[' :: rest) number = none := by
  have read : Declaration.readAttributes ('#' :: '!' :: '[' :: rest) =
      ([], '#' :: '!' :: '[' :: rest) := Declaration.readAttributes_of_eq_none rfl
  have head : ('#' :: '!' :: '[' :: rest).dropWhile isIndent = '#' :: '!' :: '[' :: rest := rfl
  rw [← Option.not_isSome_iff_eq_none, Declaration.isSome_parse?, head, read]
  exact Bool.false_ne_true

/-- No line of the flattened text declares a module, unless some line before comments are stripped
declares one in front of a comment that is stripped. -/
theorem forall_parse?_flatten_iff [PatternLibrary] {files : FileSystem} {path : Path} {pass : Pass}
    {text flat : Text} (built : flatten files path {} = .ok pass)
    (done : (pass text).result = .ok flat) (number : Nat) :
    (∀ row ∈ lines flat, Declaration.parse? row number = none) ↔
      ∀ source, (beforeComments files path {} text).result = .ok source →
        ∀ row ∈ lines source, ∀ code comment, Comments.split? row = some (code, comment) →
          Comments.isKept ({} : PreludeOptions).keptComments comment = false →
            Declaration.parse? code number = none := by
  have spaces : ∀ c ∈ ({} : PreludeOptions).indentUnit, isIndent c = true :=
    List.all_eq_true.mp rfl
  refine forall_mem_flatten_iff ?_ (Modules.isPlain_nil.2 number) ?_ ?_ built done
  · intro row
    rw [Declaration.parse?_trimEnd]
  · intro rest
    exact parse?_crateAttribute rest number
  · intro source before row there
    exact parse?_eq_none_of_beforeComments spaces before there number

def oneModule : FileSystem :=
  ⟨[(["a.rs".toList], .file (.text "pub fn f();\n".toList) false)], []⟩

theorem beforeComments_oneModule (rest : List Text) (flat : ∀ row ∈ rest, IsLine row)
    (after : Modules.inlineLines oneModule "  ".toList [⟨"parser.rs".toList⟩]
      ⟨"parser.rs".toList⟩ 2 rest = .ok rest)
    (rules : (Pass.stripRules {} (unlines ("mod a;".toList :: rest))).result =
      .ok (unlines ("mod a;".toList :: rest)))
    {source : Text} (tests : (Pass.stripTests ({} : Markers).testSentinel
      (unlines ("mod a \x7b".toList :: "  pub fn f();".toList :: ['\x7d'] :: rest))).result =
        .ok source) :
    (beforeComments oneModule ⟨"parser.rs".toList⟩ {}
      (unlines ("mod a;".toList :: rest))).result = .ok source := by
  have declared : Declaration.parse? "mod a;".toList 1 = some ⟨[], [], none, ['a'], 1⟩ := by
    decide +kernel
  have found : Modules.resolve oneModule (Path.directory ⟨"parser.rs".toList⟩) ['a']
      ⟨"parser.rs".toList⟩ = .ok ⟨"a.rs".toList⟩ := by decide +kernel
  have read : oneModule.readText ⟨"a.rs".toList⟩ =
      .ok (["a.rs".toList], "pub fn f();\n".toList) := by decide +kernel
  have new :
      Modules.onWay [⟨"parser.rs".toList⟩] (FileSystem.absolute ["a.rs".toList]) = false := by
    decide +kernel
  have inner : Modules.inlineLines oneModule "  ".toList
      ([⟨"parser.rs".toList⟩] ++ [FileSystem.absolute ["a.rs".toList]]) ⟨"a.rs".toList⟩ 1
      (lines (trim "pub fn f();\n".toList)) = .ok ["pub fn f();".toList] := by decide +kernel
  have rows := Modules.inlineLines_declared declared found read new inner after
  have block : Modules.block "  ".toList ⟨[], [], none, ['a'], 1⟩ (unlines ["pub fn f();".toList]) =
      ["mod a \x7b".toList, "  pub fn f();".toList, ['\x7d']] := by decide +kernel
  have root : oneModule.identity ⟨"parser.rs".toList⟩ = ⟨"parser.rs".toList⟩ := by decide +kernel
  have cut : lines (unlines ("mod a;".toList :: rest)) = "mod a;".toList :: rest :=
    lines_unlines (List.cons_ne_nil _ _)
      (List.forall_mem_cons.mpr ⟨fun breaks => by revert breaks; decide, flat⟩)
  have inlined : (Pass.inlineModules oneModule "  ".toList ⟨"parser.rs".toList⟩
      (unlines ("mod a;".toList :: rest))).result =
      .ok (unlines ("mod a \x7b".toList :: "  pub fn f();".toList :: ['\x7d'] :: rest)) := by
    refine map_eq_ok_iff.mpr ⟨_, (by rw [root, cut]; exact rows), ?_⟩
    rw [block]
    rfl
  exact Pass.result_and_eq_ok_iff.mpr
    ⟨_, Pass.result_and_eq_ok_iff.mpr ⟨_, rules, inlined⟩, tests⟩

/-- Neither side holds for a source whose second declaration stands in front of a comment, and both
hold for the source without it. -/
theorem forall_parse?_flatten_iff_oneModule :
    letI := PatternLibrary.lenient
    (∃ pass flat, flatten oneModule ⟨"parser.rs".toList⟩ {} = .ok pass ∧
      (pass "mod a;\nmod b; // note".toList).result = .ok flat ∧
      ((∀ row ∈ lines flat, Declaration.parse? row 1 = none) ↔
        ∀ source, (beforeComments oneModule ⟨"parser.rs".toList⟩ {}
            "mod a;\nmod b; // note".toList).result = .ok source →
          ∀ row ∈ lines source, ∀ code comment, Comments.split? row = some (code, comment) →
            Comments.isKept ({} : PreludeOptions).keptComments comment = false →
              Declaration.parse? code 1 = none) ∧
      ¬ ∀ row ∈ lines flat, Declaration.parse? row 1 = none) ∧
    ∃ pass flat, flatten oneModule ⟨"parser.rs".toList⟩ {} = .ok pass ∧
      (pass "mod a;".toList).result = .ok flat ∧
      ∀ row ∈ lines flat, Declaration.parse? row 1 = none := by
  let := PatternLibrary.lenient
  constructor
  · have before : (beforeComments oneModule ⟨"parser.rs".toList⟩ {}
        "mod a;\nmod b; // note".toList).result =
        .ok "mod a \x7b\n  pub fn f();\n\x7d\nmod b; // note".toList :=
      beforeComments_oneModule ["mod b; // note".toList] (by decide) (by decide +kernel)
        (by decide +kernel) (by decide +kernel)
    obtain ⟨pass, flat, built, done⟩ := exists_flatten_default before
    have decides := forall_parse?_flatten_iff built done 1
    refine ⟨pass, flat, built, done, decides, fun undeclared => ?_⟩
    have split : Comments.split? "mod b; // note".toList =
        some ("mod b; ".toList, "// note".toList) := by decide +kernel
    have declared : Declaration.parse? "mod b; ".toList 1 = some ⟨[], [], none, ['b'], 1⟩ := by
      decide +kernel
    have none := decides.mp undeclared _ before _ (by decide +kernel) _ _ split (by decide)
    rw [declared] at none
    cases none
  · have before : (beforeComments oneModule ⟨"parser.rs".toList⟩ {} "mod a;".toList).result =
        .ok "mod a \x7b\n  pub fn f();\n\x7d".toList :=
      beforeComments_oneModule [] (by decide) (by decide +kernel) (by decide +kernel)
        (by decide +kernel)
    obtain ⟨pass, flat, built, done⟩ := exists_flatten_default before
    have whole : ∀ row ∈ lines "mod a \x7b\n  pub fn f();\n\x7d".toList,
        Comments.split? row = none := by decide +kernel
    refine ⟨pass, flat, built, done, (forall_parse?_flatten_iff built done 1).mpr ?_⟩
    intro source same row there code comment split
    cases before.symm.trans same
    cases (whole row there).symm.trans split

/-- A declaration in front of a comment is not read as one, and becomes one without it. -/
theorem exists_parse?_flatten :
    letI := PatternLibrary.lenient
    ¬ ∀ (files : FileSystem) (path : Path) (pass : Pass) (text flat : Text),
      flatten files path {} = .ok pass → (pass text).result = .ok flat →
        ∀ number, ∀ row ∈ lines flat, Declaration.parse? row number = none := by
  intro all
  have undeclared := all oneModule ⟨"parser.rs".toList⟩ _ "mod a; // note".toList
    "mod a;".toList rfl (by decide +kernel) 1 "mod a;".toList (by decide)
  have declared : Declaration.parse? "mod a;".toList 1 = some ⟨[], [], none, ['a'], 1⟩ := by
    decide +kernel
  rw [undeclared] at declared
  cases declared

/-! ## Sentinels -/

theorem trim_crateAttribute_ne (rest : Text) :
    trim ('#' :: '!' :: '[' :: rest) ≠ "#[cfg(test)]".toList := by
  have whole : trim ('#' :: '!' :: '[' :: rest) = '#' :: '!' :: trimEnd ('[' :: rest) := by
    have start : trim ('#' :: '!' :: '[' :: rest) = trimEnd ('#' :: '!' :: '[' :: rest) := rfl
    rw [start, trimEnd_cons, trimEnd_cons]
    rfl
  rw [whole]
  intro same
  cases same

/-- No line of the flattened text is a sentinel, unless some line before comments are stripped has
one in front of a comment that is stripped. -/
theorem forall_trim_ne_flatten_iff [PatternLibrary] {files : FileSystem} {path : Path}
    {pass : Pass} {text flat : Text} (built : flatten files path {} = .ok pass)
    (done : (pass text).result = .ok flat) :
    (∀ row ∈ lines flat, trim row ≠ ({} : Markers).testSentinel) ↔
      ∀ source, (beforeComments files path {} text).result = .ok source →
        ∀ row ∈ lines source, ∀ code comment, Comments.split? row = some (code, comment) →
          Comments.isKept ({} : PreludeOptions).keptComments comment = false →
            trim code ≠ ({} : Markers).testSentinel := by
  refine forall_mem_flatten_iff ?_ (by decide) trim_crateAttribute_ne ?_ built done
  · intro row
    have same : SameEnd (trimEnd row) row := trimEnd_trimEnd row
    rw [same.trim_eq]
  · intro source before row there
    exact trim_ne_of_beforeComments (by decide) before there

/-- A source with two test blocks, one of them opened by a sentinel in front of a comment. -/
def twoBlocks : Text :=
  "#[cfg(test)]\nmod t \x7b\n\x7d\n#[cfg(test)] // note\nmod u \x7b\n\x7d".toList

/-- Neither side holds for these two blocks, and both hold for the first one alone. -/
theorem forall_trim_ne_flatten_iff_two_blocks :
    letI := PatternLibrary.lenient
    (∃ pass flat, flatten ⟨[], []⟩ ⟨"parser.rs".toList⟩ {} = .ok pass ∧
      (pass twoBlocks).result = .ok flat ∧
      ((∀ row ∈ lines flat, trim row ≠ ({} : Markers).testSentinel) ↔
        ∀ source, (beforeComments ⟨[], []⟩ ⟨"parser.rs".toList⟩ {} twoBlocks).result =
            .ok source →
          ∀ row ∈ lines source, ∀ code comment, Comments.split? row = some (code, comment) →
            Comments.isKept ({} : PreludeOptions).keptComments comment = false →
              trim code ≠ ({} : Markers).testSentinel) ∧
      ¬ ∀ row ∈ lines flat, trim row ≠ ({} : Markers).testSentinel) ∧
    ∃ pass flat, flatten ⟨[], []⟩ ⟨"parser.rs".toList⟩ {} = .ok pass ∧
      (pass (twoBlocks.take 22)).result = .ok flat ∧
      ∀ row ∈ lines flat, trim row ≠ ({} : Markers).testSentinel := by
  let := PatternLibrary.lenient
  constructor
  · have before : (beforeComments ⟨[], []⟩ ⟨"parser.rs".toList⟩ {} twoBlocks).result =
        .ok "#[cfg(test)] // note\nmod u \x7b\n\x7d".toList := by decide +kernel
    obtain ⟨pass, flat, built, done⟩ := exists_flatten_default before
    have decides := forall_trim_ne_flatten_iff built done
    refine ⟨pass, flat, built, done, decides, fun clean => ?_⟩
    have split : Comments.split? "#[cfg(test)] // note".toList =
        some ("#[cfg(test)] ".toList, "// note".toList) := by decide +kernel
    exact decides.mp clean _ before _ (by decide +kernel) _ _ split (by decide) (by decide)
  · have before : (beforeComments ⟨[], []⟩ ⟨"parser.rs".toList⟩ {} (twoBlocks.take 22)).result =
        .ok [] := by decide +kernel
    obtain ⟨pass, flat, built, done⟩ := exists_flatten_default before
    refine ⟨pass, flat, built, done, (forall_trim_ne_flatten_iff built done).mpr ?_⟩
    intro source same row there code comment split
    cases before.symm.trans same
    cases List.mem_singleton.mp there
    rw [Comments.split?, Comments.splitFrom] at split
    cases split

/-- A sentinel in front of a comment opens no test block, and becomes a sentinel without it. -/
theorem exists_trim_eq_flatten :
    letI := PatternLibrary.lenient
    ¬ ∀ (files : FileSystem) (path : Path) (pass : Pass) (text flat : Text),
      flatten files path {} = .ok pass → (pass text).result = .ok flat →
        ∀ row ∈ lines flat, trim row ≠ ({} : Markers).testSentinel := by
  intro all
  exact all ⟨[], []⟩ ⟨"parser.rs".toList⟩ _ "#[cfg(test)] // note\nmod u \x7b\n\x7d".toList
    "#[cfg(test)]\nmod u \x7b\n\x7d".toList rfl (by decide +kernel) "#[cfg(test)]".toList (by decide)
    (by decide)

end ParserRefresh
