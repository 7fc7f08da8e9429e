import ParserRefresh.Proofs.CommentScan
import ParserRefresh.Proofs.CrateNames
import ParserRefresh.Proofs.Inlining
import ParserRefresh.Proofs.SameTrees
import ParserRefresh.Proofs.TestBlocks

/-! # The prelude and the ends of lines

Every pass turns texts with the same lines into texts with the same lines, gives the same warnings
on both, or fails on both with the same fault. The last but one leaves no white space at the ends
of lines, so the preludes are equal. -/

namespace ParserRefresh

open Text

variable {first second : Text}

/-! ## Stripping rules -/

theorem Rules.outside_sameLine (markers : Markers) (state : Option Nat) (number : Nat)
    {rows others : List Text} (same : List.Forall₂ SameLine rows others) :
    SameOutcome (List.Forall₂ SameLine) (Rules.outside markers state number rows)
      (Rules.outside markers state number others) := by
  induction same generalizing state number with
  | nil =>
    cases state with
    | none => exact .ok .nil
    | some opened => exact .error opened
  | @cons row other rows others here _ ih =>
    cases state with
    | none =>
      rw [Rules.outside, Rules.outside, here.ends.trim_eq]
      split
      · exact ih _ _
      · exact (ih _ _).map (fun _ _ later => .cons here later)
    | some opened =>
      rw [Rules.outside, Rules.outside, here.ends.trim_eq]
      split
      · exact ih _ _
      · exact ih _ _

theorem Rules.strip_sameLines (same : SameLines first second) (markers : Markers) :
    SameOutcome SameLines (Rules.strip markers first) (Rules.strip markers second) := by
  have outcome := Rules.outside_sameLine markers none 1 same.forall₂_lines
  unfold Rules.strip
  generalize Rules.outside markers none 1 (lines first) = left at outcome ⊢
  generalize Rules.outside markers none 1 (lines second) = right at outcome ⊢
  cases outcome with
  | error opened => exact .error _
  | ok kept => exact .ok (.unlines_of_forall₂ kept)

/-! ## Inlining modules -/

theorem Modules.block_sameLines {unit body other : Text} (declaration : Declaration)
    (same : SameLines body other) :
    List.Forall₂ SameLines (Modules.block unit declaration body)
      (Modules.block unit declaration other) := by
  have unchanged : ∀ rows : List Text, List.Forall₂ SameLines rows rows := fun rows =>
    List.forall₂_same.mpr (fun row _ => .refl row)
  have indented : List.Forall₂ SameLines (indentLines (declaration.indent ++ unit) (lines body))
      (indentLines (declaration.indent ++ unit) (lines other)) := by
    refine List.rel_map (fun row next here => ?_) same.forall₂_lines
    unfold indentLine
    rw [here.ends.isBlank_eq]
    split
    · exact .refl _
    · exact here.sameLines.append_left _
  exact List.rel_append (List.rel_append (unchanged _) (.cons (.refl _) indented)) (unchanged _)

/-- Inlining files with the same lines gives rows with the same lines. -/
theorem Modules.inlineLines_sameLines {left right : FileSystem} (files : left.Same right)
    {unit : Text} {way : List Path} {path : Path} {number : Nat} {rows others : List Text}
    (same : List.Forall₂ SameLine rows others) :
    SameOutcome (List.Forall₂ SameLines) (Modules.inlineLines left unit way path number rows)
      (Modules.inlineLines right unit way path number others) := by
  fun_induction Modules.inlineLines left unit way path number rows generalizing others with
  | case1 =>
    cases same
    rw [Modules.inlineLines]
    exact .ok .nil
  | case2 way path number line rest undeclared ih =>
    cases same with
    | cons here later =>
      rw [Declaration.parse?_eq_of_sameEnd here.ends] at undeclared
      rw [Modules.inlineLines_cons, undeclared]
      exact (ih later).map (fun _ _ rows => .cons here.sameLines rows)
  | case3 way path number line rest declaration declared fault missing =>
    cases same with
    | cons here later =>
      rw [Declaration.parse?_eq_of_sameEnd here.ends] at declared
      rw [files.resolveModule] at missing
      rw [Modules.inlineLines_cons, declared]
      dsimp only
      rw [missing]
      exact .error fault
  | case4 way path number line rest declaration declared file found refusal unread =>
    cases same with
    | cons here later =>
      rw [Declaration.parse?_eq_of_sameEnd here.ends] at declared
      rw [files.resolveModule] at found
      rw [Modules.inlineLines_cons, declared]
      dsimp only
      rw [found]
      dsimp only
      rw [files.readText_eq_error unread]
      exact .error _
  | case5 way path number line rest declaration declared file found location text read =>
    rename_i cycle
    cases same with
    | cons here later =>
      obtain ⟨twin, again, -⟩ := files.readText_eq_ok read
      rw [Declaration.parse?_eq_of_sameEnd here.ends] at declared
      rw [files.resolveModule] at found
      rw [Modules.inlineLines_of_readText declared found again, if_pos cycle]
      exact .error _
  | case6 way path number line rest declaration declared file found location text read _ new fault
      failed =>
    rename_i ih
    cases same with
    | cons here later =>
      obtain ⟨twin, again, texts⟩ := files.readText_eq_ok read
      have inner := ih texts.trim.forall₂_lines
      rw [Declaration.parse?_eq_of_sameEnd here.ends] at declared
      rw [files.resolveModule] at found
      rw [Modules.inlineLines_of_readText declared found again, if_neg new]
      rw [failed] at inner
      generalize Modules.inlineLines right unit (way ++ [FileSystem.absolute location]) file 1
        (lines (trim twin)) = outcome at inner ⊢
      cases inner
      exact .error fault
  | case7 way path number line rest declaration declared file found location text read _ new body
      inlined ih =>
    rename_i ihRest
    cases same with
    | cons here later =>
      obtain ⟨twin, again, texts⟩ := files.readText_eq_ok read
      have inner := ih texts.trim.forall₂_lines
      rw [Declaration.parse?_eq_of_sameEnd here.ends] at declared
      rw [files.resolveModule] at found
      rw [Modules.inlineLines_of_readText declared found again, if_neg new]
      rw [inlined] at inner
      generalize Modules.inlineLines right unit (way ++ [FileSystem.absolute location]) file 1
        (lines (trim twin)) = outcome at inner ⊢
      cases inner with
      | ok bodies =>
        exact (ihRest later).map (fun _ _ rows =>
          List.rel_append (Modules.block_sameLines declaration (.unlines bodies)) rows)

theorem Modules.inline_sameLines {left right : FileSystem} (files : left.Same right)
    (same : SameLines first second) (unit : Text) (path : Path) :
    SameOutcome SameLines (Modules.inline left unit path first)
      (Modules.inline right unit path second) := by
  rw [Modules.inline, Modules.inline, files.identity]
  exact (Modules.inlineLines_sameLines files same.forall₂_lines).map (fun _ _ => .unlines)

/-! ## Stripping test blocks and comments -/

theorem Tests.strip_sameLines {sentinel : Text} (some : sentinel ≠ [])
    (same : SameLines first second) :
    SameAttempt SameLines (Tests.strip sentinel first) (Tests.strip sentinel second) := by
  obtain ⟨kept, warnings, unclosed⟩ := Tests.scan_sameLine none 1 some same.forall₂_lines
  dsimp only [Tests.strip]
  rw [unclosed, warnings]
  split
  · exact ⟨.ok (.unlines_of_forall₂ kept), rfl⟩
  · exact ⟨.error _, rfl⟩

theorem Comments.strip_sameLines {kept : List Text} (tight : ∀ start ∈ kept, trimEnd start = start)
    (same : SameLines first second) :
    SameLines (Comments.strip kept first) (Comments.strip kept second) := by
  refine .unlines_of_forall₂ (List.rel_filterMap (fun row next here => ?_) same.forall₂_lines)
  exact Comments.stripLine_sameLine here tight

/-! ## Leaving out crate attributes -/

theorem CrateAttributes.strip_sameLines (filter : CrateAttributes) (same : SameLines first second) :
    SameLines (filter.strip first) (filter.strip second) := by
  refine .unlines_of_forall₂ (List.rel_filter (fun row next here => ?_) same.forall₂_lines)
  change (!filter.covers row) = true ↔ (!filter.covers next) = true
  rw [filter.covers_eq here.ends]

/-! ## Tidy text -/

theorem Tidy.tidy_eq (text : Text) :
    Tidy.tidy text = unlines (((lines text).map trimEnd).foldl Tidy.addLine []).reverse := by
  have absorbs : ∀ kept line, Tidy.addLine kept (trimEnd line) = Tidy.addLine kept line := by
    intro kept line
    rw [Tidy.addLine, Tidy.addLine, trimEnd_trimEnd]
  rw [List.foldl_map]
  simp only [absorbs]
  rfl

/-- Texts with the same lines are tidied to one text. -/
theorem Tidy.tidy_eq_of_sameLines (same : SameLines first second) :
    Tidy.tidy first = Tidy.tidy second := by
  rw [Tidy.tidy_eq, Tidy.tidy_eq, same]

/-! ## All passes -/

namespace Pass

/-- Two passes that take texts in the relation `before` to texts in the relation `after` and give
the same warnings, or fail with the same fault. -/
def Agree (before after : Text → Text → Prop) (left right : Pass) : Prop :=
  ∀ first second, before first second → SameAttempt after (left first) (right second)

theorem Agree.and {before between after : Text → Text → Prop} {left right next other : Pass}
    (starts : Agree before between left right) (goesOn : Agree between after next other) :
    Agree before after (left.and next) (right.and other) :=
  fun first second same => (starts first second same).andThen goesOn

theorem stripRules_agree (markers : Markers) :
    Agree SameLines SameLines (stripRules markers) (stripRules markers) :=
  fun _ _ same => ⟨Rules.strip_sameLines same markers, rfl⟩

theorem inlineModules_agree {left right : FileSystem} (files : left.Same right) (unit : Text)
    (path : Path) :
    Agree SameLines SameLines (inlineModules left unit path) (inlineModules right unit path) :=
  fun _ _ same => ⟨Modules.inline_sameLines files same unit path, rfl⟩

theorem stripTests_agree {sentinel : Text} (some : sentinel ≠ []) :
    Agree SameLines SameLines (stripTests sentinel) (stripTests sentinel) :=
  fun _ _ same => Tests.strip_sameLines some same

theorem stripComments_agree {kept : List Text} (tight : ∀ start ∈ kept, trimEnd start = start) :
    Agree SameLines SameLines (stripComments kept) (stripComments kept) :=
  fun _ _ same => ⟨.ok (Comments.strip_sameLines tight same), rfl⟩

theorem stripCrateAttributes_agree [PatternLibrary] {names : List Text} {pass : Pass}
    (built : stripCrateAttributes names = .ok pass) : Agree SameLines SameLines pass pass := by
  intro first second same
  unfold stripCrateAttributes at built
  split at built
  · cases built
    exact ⟨.ok same, rfl⟩
  · obtain ⟨filter, -, rfl⟩ := map_eq_ok_iff.mp built
    exact ⟨.ok (filter.strip_sameLines same), rfl⟩

theorem tidy_agree : Agree SameLines Eq tidy tidy :=
  fun _ _ same => ⟨.ok (Tidy.tidy_eq_of_sameLines same), rfl⟩

theorem package_agree (header : Option Text) : Agree Eq Eq (package header) (package header) := by
  rintro first _ rfl
  exact ⟨.ok rfl, rfl⟩

end Pass

/-- White space at the ends of lines, in the text of the root and in the files of the tree, makes no
difference to the prelude, to its warnings or to the fault for which there is none. -/
theorem prelude_sameLines [PatternLibrary] {left right : FileSystem} (files : left.Same right)
    (same : SameLines first second) (path : Path) (options : PreludeOptions)
    (sentinel : options.markers.testSentinel ≠ [])
    (tight : ∀ start ∈ options.keptComments, trimEnd start = start) :
    (prelude left path options).map (fun pass => pass first) =
      (prelude right path options).map (fun pass => pass second) := by
  unfold prelude flatten
  cases built : Pass.stripCrateAttributes options.crateAttributes with
  | error fault => simp only [Except.map]
  | ok crateAttributes =>
    have flat := ((((Pass.stripRules_agree options.markers).and
      (Pass.inlineModules_agree files options.indentUnit path)).and
      (Pass.stripTests_agree sentinel)).and
      (Pass.stripComments_agree tight)).and (Pass.stripCrateAttributes_agree built)
    have whole := (flat.and Pass.tidy_agree).and (Pass.package_agree options.header)
    exact congrArg Except.ok (whole first second same).eq

def oneFile (text : Text) : FileSystem := ⟨[(["a.rs".toList], .file (.text text) false)], []⟩

theorem oneFile_same (same : SameLines first second) : (oneFile first).Same (oneFile second) :=
  .of_entries [] (.cons ⟨rfl, .file (.text same) false⟩ .nil)

theorem prelude_sameLines_carriage_returns :
    letI := PatternLibrary.lenient
    (prelude (oneFile "fn f();\n\n// f\n".toList) ⟨"parser.rs".toList⟩ {}).map
        (fun pass => pass "mod a;\n#![crate_id]\n".toList) =
      (prelude (oneFile "fn f();\r\n \r\n// f\t\r\n".toList) ⟨"parser.rs".toList⟩ {}).map
        (fun pass => pass "mod a; \r\n#![crate_id]\r\n".toList) := by
  let := PatternLibrary.lenient
  have module : SameLines "fn f();\n\n// f\n".toList "fn f();\r\n \r\n// f\t\r\n".toList := by
    decide
  have root : SameLines "mod a;\n#![crate_id]\n".toList "mod a; \r\n#![crate_id]\r\n".toList := by
    decide
  exact prelude_sameLines (oneFile_same module) root ⟨"parser.rs".toList⟩ {} (by decide) (by decide)

end ParserRefresh
