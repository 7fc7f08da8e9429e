import ParserRefresh.Proofs.CrateNames
import ParserRefresh.Proofs.Lines
import ParserRefresh.Proofs.SearchPattern

/-! # Attributes with one of several names

Each name of a filter is looked for by itself, though all of them are searched for with one pattern:
a line is left out exactly if it has an attribute with one of the names. So to filter with two lists
of names is to filter with the one and then with the other. -/

namespace ParserRefresh.CrateAttributes

open Text

variable {names : List Text} {name line : Text}

/-- A line has the attribute of a name if it consists of the start of an attribute, perhaps some white
space, the name and a rest, where of the characters in front of the end of the name and behind it
exactly one is part of a word. -/
def Carries (name line : Text) : Prop :=
  ∃ gap rest, line = "#![".toList ++ gap ++ name ++ rest ∧ isBlank gap = true ∧
    ("#![".toList ++ gap ++ name).getLast?.any isWord ≠ rest.head?.any isWord

/-! ## Where a name stands -/

theorem standsAt_iff {before : Char} {text : Text} :
    standsAt name before text = true ↔
      ∃ rest, text = name ++ rest ∧
        (before :: name).getLast?.any isWord ≠ rest.head?.any isWord := by
  have ends : (before :: name).getLast?.any isWord = isWord (name.getLast?.getD before) := by
    rw [List.getLast?_cons, Option.any_some]
  unfold standsAt
  rw [ends]
  constructor
  · intro stands
    split at stands
    · next rest found => exact ⟨rest, after?_eq_some_iff.mp found, bne_iff_ne.mp stands⟩
    · cases stands
  · rintro ⟨rest, whole, edge⟩
    rw [after?_eq_some_iff.mpr whole]
    exact bne_iff_ne.mpr edge

/-- White space is skipped up to a place where the name stands. -/
theorem namedAt_iff {before : Char} {text : Text} :
    namedAt name before text = true ↔
      ∃ gap rest, text = gap ++ (name ++ rest) ∧ isBlank gap = true ∧
        (before :: (gap ++ name)).getLast?.any isWord ≠ rest.head?.any isWord := by
  induction text generalizing before with
  | nil =>
    rw [namedAt_nil, standsAt_iff]
    constructor
    · rintro ⟨rest, whole, edge⟩
      exact ⟨[], rest, whole, rfl, edge⟩
    · rintro ⟨gap, rest, whole, -, edge⟩
      obtain ⟨rfl, whole'⟩ := List.append_eq_nil_iff.mp whole.symm
      exact ⟨rest, whole'.symm, edge⟩
  | cons c text ih =>
    rw [namedAt_cons, Bool.or_eq_true, Bool.and_eq_true, standsAt_iff, ih]
    constructor
    · rintro (⟨rest, whole, edge⟩ | ⟨space, gap, rest, rfl, blank, edge⟩)
      · exact ⟨[], rest, whole, rfl, edge⟩
      · refine ⟨c :: gap, rest, rfl, ?_, ?_⟩
        · rw [isBlank_cons, space, blank]
          rfl
        · rwa [List.cons_append, List.getLast?_cons_cons]
    · rintro ⟨gap, rest, whole, blank, edge⟩
      cases gap with
      | nil => exact .inl ⟨rest, whole, edge⟩
      | cons d gap =>
        obtain ⟨rfl, rfl⟩ := List.cons.inj whole
        rw [isBlank_cons, Bool.and_eq_true] at blank
        rw [List.cons_append, List.getLast?_cons_cons] at edge
        exact .inr ⟨blank.1, gap, rest, rfl, blank.2, edge⟩

theorem covers_iff {filter : CrateAttributes} :
    filter.covers line = true ↔ ∃ name ∈ filter.names, Carries name line := by
  have start : ∀ gap name : Text,
      ("#![".toList ++ gap ++ name).getLast? = ('[' :: (gap ++ name)).getLast? := by
    intro gap name
    simp [List.getLast?_cons_cons]
  unfold covers Carries
  simp only [start]
  constructor
  · intro covered
    split at covered
    · cases covered
    · next rest found =>
      obtain ⟨name, member, named⟩ := List.any_eq_true.mp covered
      obtain ⟨gap, behind, rfl, blank, edge⟩ := namedAt_iff.mp named
      refine ⟨name, member, gap, behind, ?_, blank, edge⟩
      rw [after?_eq_some_iff.mp found, List.append_assoc, List.append_assoc]
  · rintro ⟨name, member, gap, rest, rfl, blank, edge⟩
    have found : after? "#![".toList ("#![".toList ++ gap ++ name ++ rest) =
        some (gap ++ (name ++ rest)) := by
      rw [after?_eq_some_iff, List.append_assoc, List.append_assoc]
    rw [found]
    exact List.any_eq_true.mpr ⟨name, member, namedAt_iff.mpr ⟨gap, rest, rfl, blank, edge⟩⟩

instance (name line : Text) : Decidable (Carries name line) :=
  decidable_of_iff (covers ⟨[name]⟩ line = true) (by simp [covers_iff])

/-- One pattern for all names finds the lines with one of them. -/
theorem covers_iff_finds (named : names ≠ []) :
    covers ⟨names⟩ line = true ↔
      ∃ search, Pattern.read? (pattern names) = some search ∧ search.Finds line := by
  rw [Pattern.read?_pattern named, covers_iff]
  simp only [Option.some.injEq, exists_eq_left', Pattern.finds_ofNames_iff]
  rfl

/-! ## Filtering -/

/-- A text without any lines has the empty line still, which no filter covers. -/
theorem strip_unlines (filter : CrateAttributes) {rows : List Text}
    (flat : ∀ row ∈ rows, IsLine row) :
    filter.strip (unlines rows) = unlines (rows.filter (fun line => !filter.covers line)) := by
  cases rows with
  | nil => rfl
  | cons row rows => rw [strip, lines_unlines (List.cons_ne_nil row rows) flat]

/-- One filter after the other leaves the lines that neither of them covers. -/
theorem strip_of_strip (one two : CrateAttributes) (text : Text) :
    one.strip (two.strip text) =
      unlines ((lines text).filter (fun line => !one.covers line && !two.covers line)) := by
  have flat : ∀ row ∈ (lines text).filter (fun line => !two.covers line), IsLine row :=
    fun row member => isLine_of_mem_lines (List.mem_of_mem_filter member)
  have inner : two.strip text = unlines ((lines text).filter (fun line => !two.covers line)) := rfl
  rw [inner, strip_unlines one flat, List.filter_filter]

theorem covers_names_append (first second : List Text) (line : Text) :
    covers ⟨first ++ second⟩ line = (covers ⟨first⟩ line || covers ⟨second⟩ line) := by
  rw [Bool.eq_iff_iff, Bool.or_eq_true, covers_iff, covers_iff, covers_iff]
  simp only [List.mem_append, or_and_right, exists_or]

/-- A filter treats its names independently. To filter with two lists of names is to filter with one
of them and then with the other, in any order, and the lines that a filter leaves out are those that
have an attribute with one of its names. These are the lines that the search pattern of its names is
found in. -/
theorem strip_names_append [PatternLibrary] {first second : List Text}
    {one two both : CrateAttributes}
    (built : ofNames first = .ok one) (built' : ofNames second = .ok two)
    (builtBoth : ofNames (first ++ second) = .ok both) (text : Text) :
    both.strip text = one.strip (two.strip text) ∧ both.strip text = two.strip (one.strip text) ∧
      ∀ names filter, ofNames names = .ok filter →
        filter.strip text =
            unlines ((lines text).filter fun line => ¬ ∃ name ∈ names, Carries name line) ∧
          (∀ line, filter.covers line = true ↔ ∃ name ∈ names, Carries name line) ∧
          (names ≠ [] → ∃ search, Pattern.read? (pattern names) = some search ∧
            ∀ line, filter.covers line = true ↔ search.Finds line) := by
  cases eq_of_ofNames built
  cases eq_of_ofNames built'
  cases eq_of_ofNames builtBoth
  refine ⟨?_, ?_, fun names filter done => ?_⟩
  · rw [strip_of_strip, strip]
    simp only [covers_names_append, Bool.not_or]
  · rw [strip_of_strip, strip]
    simp only [covers_names_append, Bool.not_or, Bool.and_comm]
  · cases eq_of_ofNames done
    refine ⟨?_, fun line => covers_iff, fun named => ?_⟩
    · rw [strip]
      refine congrArg unlines (List.filter_congr fun line _ => ?_)
      rw [decide_not, Bool.not_inj_iff, Bool.eq_iff_iff, decide_eq_true_eq]
      exact covers_iff
    · refine ⟨.ofNames names, Pattern.read?_pattern named, fun line => ?_⟩
      rw [covers_iff_finds named, Pattern.read?_pattern named]
      simp

def attributes : Text := "#![crate_id]\n#![crate_identity]\n#![ a+b]\n#![aab]".toList

/-- A name that is the start of another hides nothing, and neither does it cover more; an operator
stands for itself. -/
theorem strip_names_append_attributes :
    letI := PatternLibrary.lenient
    ∃ one two both : CrateAttributes,
      ofNames ["crate_id".toList] = .ok one ∧ ofNames ["crate_".toList, "a+b".toList] = .ok two ∧
      ofNames (["crate_id".toList] ++ ["crate_".toList, "a+b".toList]) = .ok both ∧
      both.strip attributes = one.strip (two.strip attributes) ∧
      both.strip attributes = two.strip (one.strip attributes) ∧
      both.covers "#![crate_id]".toList = true ∧ both.covers "#![crate_identity]".toList = false ∧
      both.covers "#![ a+b]".toList = true ∧ both.covers "#![aab]".toList = false := by
  let := PatternLibrary.lenient
  have built : ofNames ["crate_id".toList] = .ok ⟨["crate_id".toList]⟩ := by decide
  have built' : ofNames ["crate_".toList, "a+b".toList] = .ok ⟨["crate_".toList, "a+b".toList]⟩ := by
    decide
  have builtBoth : ofNames (["crate_id".toList] ++ ["crate_".toList, "a+b".toList]) =
      .ok ⟨["crate_id".toList] ++ ["crate_".toList, "a+b".toList]⟩ := by decide
  obtain ⟨first, second, each⟩ := strip_names_append built built' builtBoth attributes
  have covered := (each _ _ builtBoth).2.1
  have outside : isWord ']' = false := by
    rw [isWord, isIn, ← Array.any_toList]
    decide +kernel
  have inside : isWord 'd' = true ∧ isWord 'b' = true := by decide +kernel
  refine ⟨_, _, _, built, built', builtBoth, first, second, ?_, by decide +kernel, ?_,
    by decide +kernel⟩
  · have last : ("#![".toList ++ [] ++ "crate_id".toList).getLast? = some 'd' := by decide
    refine (covered _).mpr ⟨"crate_id".toList, by decide, [], [']'], rfl, rfl, ?_⟩
    rw [last, Option.any_some, List.head?_cons, Option.any_some, inside.1, outside]
    decide
  · have last : ("#![".toList ++ [' '] ++ "a+b".toList).getLast? = some 'b' := by decide
    refine (covered _).mpr ⟨"a+b".toList, by decide, [' '], [']'], rfl, rfl, ?_⟩
    rw [last, Option.any_some, List.head?_cons, Option.any_some, inside.2, outside]
    decide

end ParserRefresh.CrateAttributes
