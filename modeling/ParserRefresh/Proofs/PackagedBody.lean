import ParserRefresh.Proofs.CommentScan
import ParserRefresh.Proofs.CrateNames
import ParserRefresh.Proofs.Outcomes
import ParserRefresh.Proofs.TidyLines

/-! # The body that is packaged

Each of the last passes before packaging leaves lines that it would leave again: lines without a
comment to strip, lines that are no crate attribute to leave out, and lines without loose white
space. The passes behind it drop lines or cut white space off their ends, and neither brings
anything back that an earlier pass has taken away. -/

namespace ParserRefresh

open Text

/-! ## Lines without a comment to strip -/

namespace Comments

/-- A line that has no comment, or one that is kept. -/
def IsClear (kept : List Text) (line : Text) : Prop :=
  ∀ code comment, split? line = some (code, comment) → isKept kept comment = true

variable {kept : List Text} {line out : Text}

theorem isClear_nil (kept : List Text) : IsClear kept [] := by
  intro code comment found
  rw [split?, splitFrom] at found
  cases found

theorem stripLine_of_isClear (clear : IsClear kept line) : stripLine kept line = some line :=
  stripLine_eq_some_iff.mpr (.inl ⟨clear, rfl⟩)

theorem strip_of_isClear {text : Text} (clear : ∀ row ∈ lines text, IsClear kept row) :
    strip kept text = text := by
  have all : (lines text).filterMap (stripLine kept) = lines text := by
    rw [List.filterMap_congr (fun row member => stripLine_of_isClear (clear row member)),
      List.filterMap_some]
  rw [strip, all, unlines_lines]

/-- There is no comment in front of the first one. -/
theorem split?_code {code comment : Text} (found : split? line = some (code, comment)) :
    split? code = none := by
  obtain ⟨_, rest, rfl, start, whole⟩ := exists_of_splitFrom found
  cases earlier : split? code with
  | none => rfl
  | some parts =>
    obtain ⟨front, note⟩ := parts
    have longer : split? line = some (front, note ++ comment) := by
      rw [whole]
      exact splitFrom_append_right earlier comment
    obtain ⟨_, _, -, slashes, -⟩ := exists_of_splitFrom earlier
    have same := (Prod.mk.inj (Option.some.inj (found.symm.trans longer))).2
    rw [List.self_eq_append_left.mp same] at slashes
    cases slashes

theorem IsClear.trimEnd (tight : ∀ start ∈ kept, trimEnd start = start)
    (clear : IsClear kept line) : IsClear kept (trimEnd line) := by
  intro code comment found
  obtain ⟨blank, space, whole⟩ := exists_trimEnd_append line
  have longer := split?_append_of_isBlank (Text.trimEnd line) space
  rw [whole, found] at longer
  have same : SameEnd comment (comment ++ blank) := (trimEnd_append_of_isBlank comment space).symm
  rw [isKept_eq same tight]
  exact clear code _ longer

/-- What is left of a line has no comment to strip. -/
theorem isClear_of_stripLine (stripped : stripLine kept line = some out) : IsClear kept out := by
  rcases stripLine_eq_some_iff.mp stripped with ⟨clear, rfl⟩ | ⟨code, comment, found, -, -, rfl⟩
  · exact clear
  · intro front note again
    obtain ⟨blank, space, whole⟩ := exists_trimEnd_append code
    have longer := split?_append_of_isBlank (Text.trimEnd code) space
    rw [whole, split?_code found, again] at longer
    cases longer

theorem isClear_of_strip (kept : List Text) (text : Text) :
    ∀ row ∈ lines (strip kept text), IsClear kept row := by
  rw [strip, forall_mem_lines_unlines (isClear_nil kept)
    (fun _ => isLine_of_mem_filterMap (fun _ => isLine_of_mem_lines))]
  intro row member
  obtain ⟨source, -, stripped⟩ := List.mem_filterMap.mp member
  exact isClear_of_stripLine stripped

/-- A text without its comments is left as it is, whatever comments are kept. -/
theorem strip_strip (kept : List Text) (text : Text) :
    strip kept (strip kept text) = strip kept text := by
  apply strip_of_isClear
  exact isClear_of_strip kept text

end Comments

/-! ## Lines that are no crate attribute -/

namespace CrateAttributes

theorem strip_of_forall_covers {filter : CrateAttributes} {text : Text}
    (none : ∀ row ∈ lines text, filter.covers row = false) : filter.strip text = text := by
  have all : (lines text).filter (fun row => !filter.covers row) = lines text :=
    List.filter_eq_self.mpr (fun row member => by rw [none row member]; rfl)
  rw [strip, all, unlines_lines]

theorem forall_mem_strip_iff {p : Text → Prop} (filter : CrateAttributes) (text : Text)
    (blank : p []) :
    (∀ row ∈ lines (filter.strip text), p row) ↔
      ∀ row ∈ lines text, filter.covers row = false → p row := by
  rw [strip, forall_mem_lines_unlines blank
    (fun row there => isLine_of_mem_lines (List.mem_of_mem_filter there))]
  simp [List.mem_filter]

end CrateAttributes

/-- Leaving out crate attributes leaves lines of the text, and none that a filter for the names
covers. -/
theorem Pass.exists_of_stripCrateAttributes [PatternLibrary] {names : List Text} {pass : Pass}
    {text out : Text}
    (built : Pass.stripCrateAttributes names = .ok pass) (done : (pass text).result = .ok out) :
    (names ≠ [] → CrateAttributes.ofNames names = .ok ⟨names⟩) ∧
      (∀ row ∈ lines out, CrateAttributes.covers ⟨names⟩ row = false) ∧
      ∀ p : Text → Prop, p [] → (∀ row ∈ lines text, p row) → ∀ row ∈ lines out, p row := by
  unfold Pass.stripCrateAttributes at built
  split at built
  · next empty =>
    rw [List.isEmpty_iff] at empty
    cases built
    cases done
    subst empty
    refine ⟨fun named => absurd rfl named, fun row _ => ?_, fun p _ all => all⟩
    unfold CrateAttributes.covers
    split <;> rfl
  · obtain ⟨filter, found, rfl⟩ := map_eq_ok_iff.mp built
    obtain rfl := CrateAttributes.eq_of_ofNames found
    cases done
    refine ⟨fun _ => found, ?_, fun p blank all => ?_⟩
    · exact (CrateAttributes.forall_mem_strip_iff
        (p := fun row => CrateAttributes.covers ⟨names⟩ row = false) ⟨names⟩ text rfl).mpr
        (fun row _ uncovered => uncovered)
    · exact (CrateAttributes.forall_mem_strip_iff ⟨names⟩ text blank).mpr
        (fun row member _ => all row member)

/-! ## The body -/

/-- Each of the last passes before packaging, run again on the body that they have made, leaves it
as it is. -/
theorem strip_tidy_of_flatten [PatternLibrary] {files : FileSystem} {path : Path}
    {options : PreludeOptions} {pass : Pass} {text body : Text}
    (tight : ∀ start ∈ options.keptComments, trimEnd start = start)
    (built : flatten files path options = .ok pass)
    (done : ((pass.and Pass.tidy) text).result = .ok body) :
    Comments.strip options.keptComments body = body ∧
      (options.crateAttributes ≠ [] →
        CrateAttributes.ofNames options.crateAttributes = .ok ⟨options.crateAttributes⟩) ∧
      CrateAttributes.strip ⟨options.crateAttributes⟩ body = body ∧
      Tidy.tidy body = body := by
  obtain ⟨flat, flattened, tidied⟩ := Pass.result_and_eq_ok_iff.mp done
  obtain ⟨attributes, filtering, rfl⟩ := map_eq_ok_iff.mp built
  obtain ⟨stripped, first, last⟩ := Pass.result_and_eq_ok_iff.mp flattened
  obtain ⟨source, -, comments⟩ := Pass.result_and_eq_ok_iff.mp first
  obtain ⟨found, uncovered, kept⟩ := Pass.exists_of_stripCrateAttributes filtering last
  cases comments
  cases tidied
  have clear := kept _ (Comments.isClear_nil _)
    (Comments.isClear_of_strip options.keptComments source)
  refine ⟨Comments.strip_of_isClear ?_, found, CrateAttributes.strip_of_forall_covers ?_,
    Tidy.tidy_tidy flat⟩
  · intro row member
    obtain ⟨line, there, rfl⟩ := Tidy.exists_trimEnd_of_mem_lines_tidy member
    exact (clear line there).trimEnd tight
  · intro row member
    obtain ⟨line, there, rfl⟩ := Tidy.exists_trimEnd_of_mem_lines_tidy member
    rw [CrateAttributes.covers_eq _ (trimEnd_trimEnd line)]
    exact uncovered line there

/-- A source with the first line of a crate attribute, and a gap that comes about when a comment
is stripped. -/
def gappedSource : Text :=
  "#![crate_id // a\nf \x7b // b\n\n/// c \n \n// d\n\x7d // e".toList

theorem strip_tidy_of_flatten_gappedSource :
    letI := PatternLibrary.lenient
    ∃ pass body, flatten ⟨[], []⟩ ⟨"parser.rs".toList⟩ {} = .ok pass ∧
      ((pass.and Pass.tidy) gappedSource).result = .ok body ∧
      body = "f \x7b\n\n/// c\n\x7d".toList ∧
      Comments.strip ({} : PreludeOptions).keptComments body = body ∧
      (({} : PreludeOptions).crateAttributes ≠ [] →
        CrateAttributes.ofNames ({} : PreludeOptions).crateAttributes =
          .ok ⟨({} : PreludeOptions).crateAttributes⟩) ∧
      CrateAttributes.strip ⟨({} : PreludeOptions).crateAttributes⟩ body = body ∧
      Tidy.tidy body = body := by
  let := PatternLibrary.lenient
  have source : ((((Pass.stripRules {}).and
      (Pass.inlineModules ⟨[], []⟩ "  ".toList ⟨"parser.rs".toList⟩)).and
      (Pass.stripTests ({} : Markers).testSentinel)) gappedSource).result = .ok gappedSource := by
    decide +kernel
  have comments : (Pass.stripComments ({} : PreludeOptions).keptComments gappedSource).result =
      .ok "#![crate_id\nf \x7b\n\n/// c \n \n\x7d".toList := by
    decide +kernel
  have covered : CrateAttributes.strip ⟨({} : PreludeOptions).crateAttributes⟩
      "#![crate_id\nf \x7b\n\n/// c \n \n\x7d".toList =
        "f \x7b\n\n/// c \n \n\x7d".toList := by
    decide +kernel
  have attributes : (Pass.ofFunction
      (CrateAttributes.strip ⟨({} : PreludeOptions).crateAttributes⟩)
      "#![crate_id\nf \x7b\n\n/// c \n \n\x7d".toList).result =
        .ok "f \x7b\n\n/// c \n \n\x7d".toList := congrArg Except.ok covered
  have tidied : (Pass.tidy "f \x7b\n\n/// c \n \n\x7d".toList).result =
      .ok "f \x7b\n\n/// c\n\x7d".toList := by
    decide +kernel
  have flattened := Pass.result_and_eq_ok_iff.mpr
    ⟨_, Pass.result_and_eq_ok_iff.mpr ⟨_, source, comments⟩, attributes⟩
  have done := Pass.result_and_eq_ok_iff.mpr ⟨_, flattened, tidied⟩
  exact ⟨_, _, rfl, done, rfl, strip_tidy_of_flatten (by decide) rfl done⟩

end ParserRefresh
