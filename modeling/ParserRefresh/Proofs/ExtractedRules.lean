import ParserRefresh.Proofs.Indentation
import ParserRefresh.Proofs.RuleRegions

/-! # Extracted rules

Extraction takes one stretch of lines from program output: the first line that opens rules, and the
lines with content directly behind it. Their ends are trimmed, and the indentation that all of them
share may be taken off. What is left is the block, line for line; there is none exactly if no line
opens rules. -/

namespace ParserRefresh.Rules

open Text

variable {sentinel indent : Text} {rows : List Text}

/-! ## Lines of rules -/

/-- A line with content and without white space at its end. -/
structure IsRule (row : Text) : Prop where
  content : isBlank row = false
  tight : trimEnd row = row
  single : IsLine row

theorem isRule_append_iff (spaces : ∀ c ∈ indent, isIndent c = true) {row : Text} :
    IsRule (indent ++ row) ↔ IsRule row := by
  have start : IsLine indent := fun inside => by cases spaces _ inside
  have blank : isBlank (indent ++ row) = isBlank row := by
    rw [isBlank_append, isBlank_of_isIndent spaces, Bool.true_and]
  constructor
  · rintro ⟨content, tight, single⟩
    rw [blank] at content
    rw [trimEnd_append, content, if_neg Bool.false_ne_true] at tight
    exact ⟨content, List.append_cancel_left tight,
      single.of_subset (List.subset_append_right _ _)⟩
  · rintro ⟨content, tight, single⟩
    refine ⟨blank.trans content, ?_, start.append single⟩
    rw [trimEnd_append, content, if_neg Bool.false_ne_true, tight]

theorem isRule_trimEnd {row : Text} (content : isBlank row = false) (single : IsLine row) :
    IsRule (trimEnd row) where
  content := (isBlank_trimEnd row).trans content
  tight := trimEnd_trimEnd row
  single := single.of_subset (trimEnd_subset row)

theorem isLine_of_mem_outputLines {row text : Text} (member : row ∈ outputLines text) :
    IsLine row := by
  have ended : ∀ row ∈ (lines text).dropLast.map dropReturn, IsLine row := by
    intro row there
    obtain ⟨line, listed, rfl⟩ := List.mem_map.mp there
    refine (isLine_of_mem_lines (List.dropLast_subset _ listed)).of_subset ?_
    unfold dropReturn
    split
    · exact List.dropLast_subset line
    · exact List.Subset.refl line
  unfold outputLines at member
  dsimp only at member
  split at member
  · exact ended row member
  · next last found =>
    split at member
    · exact ended row member
    · rcases List.mem_append.mp member with early | late
      · exact ended row early
      · rw [List.mem_singleton.mp late]
        exact isLine_of_mem_lines (List.mem_of_getLast? found)

/-! ## The stretch of lines that is extracted -/

theorem opens_iff {row : Text} : opens sentinel row = true ↔ sentinel <+: trimStart row :=
  List.isPrefixOf_iff_prefix

theorem isBlank_of_opens (some : sentinel ≠ []) {row : Text} (opening : opens sentinel row = true) :
    isBlank row = false := by
  rw [Bool.eq_false_iff]
  intro blank
  rw [opens_iff, trimStart_eq_nil_iff.mpr blank, List.prefix_nil] at opening
  exact some opening

/-- The lines that hold the rules: the first line that starts with the sentinel behind its
indentation, and the lines behind it up to the next blank one or to the end. -/
structure Stretch (sentinel : Text) (rows : List Text) where
  above : List Text
  first : Text
  body : List Text
  below : List Text
  rows_eq : rows = above ++ first :: (body ++ below)
  closed_above : ∀ row ∈ above, ¬ sentinel <+: trimStart row
  opening : sentinel <+: trimStart first
  content : ∀ row ∈ body, isBlank row = false
  ends : ∀ row ∈ below.head?, isBlank row = true

namespace Stretch

def trimmed (stretch : Stretch sentinel rows) : List Text :=
  (stretch.first :: stretch.body).map trimEnd

theorem run_eq (stretch : Stretch sentinel rows) : run sentinel rows = stretch.trimmed := by
  have closed : ∀ row ∈ stretch.above, (!opens sentinel row) = true := by
    intro row member
    rw [Bool.not_eq_true', Bool.eq_false_iff]
    exact fun opening => stretch.closed_above row member (opens_iff.mp opening)
  have skipped : rows.dropWhile (fun line => !opens sentinel line) =
      stretch.first :: (stretch.body ++ stretch.below) := by
    refine (congrArg _ stretch.rows_eq).trans (dropWhile_append_cons closed ?_)
    rw [opens_iff.mpr stretch.opening, Bool.not_true]
  have filled : ∀ row ∈ stretch.body, (!isBlank row) = true := by
    intro row member
    rw [stretch.content row member, Bool.not_false]
  have taken : (stretch.body ++ stretch.below).takeWhile (fun line => !isBlank line) =
      stretch.body := by
    have ends := stretch.ends
    cases below : stretch.below with
    | nil => rw [List.append_nil, List.takeWhile_eq_self_iff.mpr filled]
    | cons row others =>
      rw [below] at ends
      exact takeWhile_append_cons filled (by rw [ends row rfl, Bool.not_true])
  rw [run, skipped]
  dsimp only
  rw [taken, trimmed]

theorem trimmed_ne_nil (stretch : Stretch sentinel rows) : stretch.trimmed ≠ [] :=
  List.cons_ne_nil _ _

/-- The lines of a stretch are rules, unless the sentinel is empty and the first line blank. -/
theorem isRule_of_mem (stretch : Stretch sentinel rows) (some : sentinel ≠ [])
    (single : ∀ row ∈ rows, IsLine row) : ∀ row ∈ stretch.trimmed, IsRule row := by
  intro row member
  obtain ⟨source, there, rfl⟩ := List.mem_map.mp member
  have listed : source ∈ rows := by
    rw [stretch.rows_eq]
    exact List.mem_append_right _ (List.mem_append_left stretch.below there)
  refine isRule_trimEnd ?_ (single source listed)
  rcases List.mem_cons.mp there with rfl | later
  · exact isBlank_of_opens some (opens_iff.mpr stretch.opening)
  · exact stretch.content source later

end Stretch

/-- Where a line opens rules, there is a stretch of them. -/
theorem nonempty_stretch (opening : ∃ row ∈ rows, sentinel <+: trimStart row) :
    Nonempty (Stretch sentinel rows) := by
  cases cut : breakAt (opens sentinel) rows with
  | none =>
    obtain ⟨row, member, starts⟩ := opening
    have closed := breakAt_eq_none_iff.mp cut row member
    rw [opens_iff.mpr starts] at closed
    cases closed
  | some parts =>
    obtain ⟨above, first, rest⟩ := parts
    obtain ⟨whole, opens, closed⟩ := breakAt_eq_some_iff.mp cut
    have parts : rest.takeWhile (fun line => !isBlank line) ++
        rest.dropWhile (fun line => !isBlank line) = rest := List.takeWhile_append_dropWhile
    refine ⟨⟨above, first, _, _, by rw [parts, whole], ?_, opens_iff.mp opens, ?_, ?_⟩⟩
    · intro row member starts
      have shut := closed row member
      rw [opens_iff.mpr starts] at shut
      cases shut
    · intro row member
      simpa using List.mem_takeWhile_imp member
    · intro row member
      have stops := List.head?_dropWhile_not (fun line => !isBlank line) rest
      rw [Option.mem_def.mp member] at stops
      simpa using stops

theorem run_eq_nil_iff : run sentinel rows = [] ↔ ∀ row ∈ rows, ¬ sentinel <+: trimStart row := by
  constructor
  · intro nothing row member starts
    obtain ⟨stretch⟩ := nonempty_stretch ⟨row, member, starts⟩
    exact stretch.trimmed_ne_nil (stretch.run_eq.symm.trans nothing)
  · intro closed
    have skipped : rows.dropWhile (fun line => !opens sentinel line) = [] := by
      rw [List.dropWhile_eq_nil_iff]
      intro row member
      rw [Bool.not_eq_true', Bool.eq_false_iff]
      exact fun opening => closed row member (opens_iff.mp opening)
    rw [run, skipped]

/-! ## Taking off indentation -/

/-- Indentation is cut off all lines, or one of them is too short. -/
theorem mapM_cutIndent (width : Nat) (rows : List Text) :
    rows.mapM (cutIndent width) =
      if ∀ row ∈ rows, width ≤ row.length then .ok (rows.map (List.drop width))
      else .error .crashed := by
  induction rows with
  | nil => rfl
  | cons row rows ih =>
    rw [List.mapM_cons, cutIndent, ih]
    simp only [List.forall_mem_cons]
    by_cases here : width ≤ row.length
    · simp only [here, true_and, if_true]
      by_cases later : ∀ other ∈ rows, width ≤ other.length
      · rw [if_pos later, if_pos later]
        rfl
      · rw [if_neg later, if_neg later]
        rfl
    · simp only [here, false_and, if_false]
      rfl

/-- The lines without the indentation that they share. -/
def dedented (rows : List Text) : List Text := rows.map (List.drop (commonIndent rows).length)

theorem dedented_ne_nil (some : rows ≠ []) : dedented rows ≠ [] :=
  fun none => some (List.map_eq_nil_iff.mp none)

section Rules

variable (rule : ∀ row ∈ rows, IsRule row) (some : rows ≠ [])
include rule

theorem indentLines_of_isRule (indent : Text) : indentLines indent rows = rows.map (indent ++ ·) :=
  List.map_congr_left (fun row member => if_neg (Bool.eq_false_iff.mp (rule row member).content))

/-- Every line starts with the indentation that all of them share. -/
theorem map_append_dedented : (dedented rows).map (commonIndent rows ++ ·) = rows := by
  rw [dedented, List.map_map]
  refine (List.map_congr_left (fun row member => ?_)).trans (List.map_id rows)
  obtain ⟨rest, whole⟩ := commonIndent_isPrefix_line member (rule row member).content
  generalize commonIndent rows = indent at whole ⊢
  rw [← whole, Function.comp_apply, List.drop_left, id]

include some

theorem lines_unlines_of_isRule : lines (unlines rows) = rows :=
  lines_unlines some (fun row member => (rule row member).single)

theorem isIndent_of_mem_commonIndent_of_isRule : ∀ c ∈ commonIndent rows, isIndent c = true := by
  obtain ⟨first, rest, rfl⟩ := List.exists_cons_of_ne_nil some
  exact isIndent_of_mem_commonIndent List.mem_cons_self (rule first List.mem_cons_self).content

theorem isRule_of_mem_dedented : ∀ row ∈ dedented rows, IsRule row := by
  intro row member
  refine (isRule_append_iff (isIndent_of_mem_commonIndent_of_isRule rule some)).mp (rule _ ?_)
  have whole := List.mem_map_of_mem (f := (commonIndent rows ++ ·)) member
  rwa [map_append_dedented rule] at whole

/-- Nothing is shared any more. -/
theorem commonIndent_dedented : commonIndent (dedented rows) = [] := by
  have spaces := isIndent_of_mem_commonIndent_of_isRule rule some
  have cut := isRule_of_mem_dedented rule some
  obtain ⟨first, member⟩ := List.exists_mem_of_ne_nil _ (dedented_ne_nil some)
  have shared := commonIndent_indentLines spaces member (cut first member).content
  rw [indentLines_of_isRule cut, map_append_dedented rule] at shared
  exact List.self_eq_append_right.mp shared

/-- Rules that are found are extracted, dedented if this is asked for. -/
theorem extract_of_isRule {options : ExtractOptions} {output : Text}
    (found : run options.sentinel (outputLines output) = rows) :
    extract options output =
      .ok ⟨unlines (if options.dedent then dedented rows else rows)⟩ := by
  have long : ∀ row ∈ rows, (commonIndent rows).length ≤ row.length := fun row member =>
    (commonIndent_isPrefix_line member (rule row member).content).length_le
  obtain ⟨first, rest, whole⟩ := List.exists_cons_of_ne_nil some
  unfold extract
  rw [found, whole]
  dsimp only
  rw [← whole, mapM_cutIndent, if_pos long]
  cases options.dedent <;> rfl

end Rules

/-! ## The extracted block -/

/-- A block made of some lines: none of its own lines is blank and there are as many of them. Without
dedenting they are those lines. With it one indentation stood in front of all of them, and nothing
more could have been taken off. -/
structure Extracts (dedent : Bool) (rows : List Text) (block : RuleBlock) : Prop where
  content : ∀ row ∈ lines block.text, isBlank row = false
  lineCount : block.lineCount = rows.length
  plain : dedent = false → block.text = unlines rows
  indented : dedent = true → ∃! indent : Text, (∀ c ∈ indent, isIndent c = true) ∧
    rows = (lines block.text).map (indent ++ ·)
  flush : dedent = true → ∀ c, isIndent c = true → ∃ row ∈ lines block.text, row.head? ≠ some c

theorem lineCount_of_isRule (rule : ∀ row ∈ rows, IsRule row) (some : rows ≠ []) :
    RuleBlock.lineCount ⟨unlines rows⟩ = rows.length := by
  have whole := lines_unlines_of_isRule rule some
  have filled : (unlines rows).isEmpty = false := by
    rw [Bool.eq_false_iff, ne_eq, List.isEmpty_iff]
    intro nothing
    rw [nothing] at whole
    cases (rule [] (whole ▸ List.mem_cons_self)).content
  rw [RuleBlock.lineCount, filled, if_neg Bool.false_ne_true, whole]

/-- Lines that share no indentation do not all start with the same space or tab. -/
theorem exists_head?_ne (rule : ∀ row ∈ rows, IsRule row) (some : rows ≠ [])
    (flush : commonIndent rows = []) {c : Char} (space : isIndent c = true) :
    ∃ row ∈ rows, row.head? ≠ .some c := by
  by_contra! all
  obtain ⟨first, member⟩ := List.exists_mem_of_ne_nil _ some
  refine (commonIndent_ne_nil_iff member (rule first member).content).mpr ?_ flush
  refine ⟨[c], List.cons_ne_nil c [], by simpa using space, fun row there _ => ?_⟩
  obtain ⟨rest, rfl⟩ := List.head?_eq_some_iff.mp (all row there)
  exact ⟨rest, rfl⟩

theorem extracts_dedented (rule : ∀ row ∈ rows, IsRule row) (some : rows ≠ []) :
    Extracts true rows ⟨unlines (dedented rows)⟩ := by
  have cut := isRule_of_mem_dedented rule some
  have left := dedented_ne_nil some
  have whole := lines_unlines_of_isRule cut left
  refine ⟨?_, ?_, (fun off => by cases off), fun _ => ?_, fun _ c space => ?_⟩
  · rw [whole]
    exact fun row member => (cut row member).content
  · rw [lineCount_of_isRule cut left, dedented, List.length_map]
  · rw [whole]
    refine ⟨commonIndent rows, ⟨isIndent_of_mem_commonIndent_of_isRule rule some,
      (map_append_dedented rule).symm⟩, ?_⟩
    rintro other ⟨-, same⟩
    obtain ⟨first, rest, parts⟩ := List.exists_cons_of_ne_nil left
    have both := (map_append_dedented rule).trans same
    rw [parts, List.map_cons, List.map_cons] at both
    exact (List.append_cancel_right (List.cons.inj both).1).symm
  · rw [whole]
    exact exists_head?_ne cut left (commonIndent_dedented rule some) space

theorem extracts_of_isRule (rule : ∀ row ∈ rows, IsRule row) (some : rows ≠ []) (dedent : Bool) :
    Extracts dedent rows ⟨unlines (if dedent then dedented rows else rows)⟩ := by
  cases dedent with
  | true => exact extracts_dedented rule some
  | false =>
    refine ⟨?_, lineCount_of_isRule rule some, fun _ => rfl, (fun on => by cases on),
      (fun on => by cases on)⟩
    intro row member
    rw [if_neg Bool.false_ne_true, lines_unlines_of_isRule rule some] at member
    exact (rule row member).content

theorem extract_of_closed {options : ExtractOptions} {output : Text}
    (closed : ∀ row ∈ outputLines output, ¬ options.sentinel <+: trimStart row) :
    extract options output = .error (Cause.noRules options.sentinel) := by
  rw [extract, run_eq_nil_iff.mpr closed]

/-- Extraction fails exactly if no line opens rules. Otherwise there is a stretch of rules, and the
block is made of its lines. -/
theorem extract_stretch (options : ExtractOptions) (some : options.sentinel ≠ []) (output : Text) :
    (∀ fault, extract options output = .error fault ↔
      fault = Cause.noRules options.sentinel ∧
        ∀ row ∈ outputLines output, ¬ options.sentinel <+: trimStart row) ∧
    ((∃ row ∈ outputLines output, options.sentinel <+: trimStart row) →
      Nonempty (Stretch options.sentinel (outputLines output))) ∧
    ∀ stretch : Stretch options.sentinel (outputLines output),
      ∃ block, extract options output = .ok block ∧
        Extracts options.dedent stretch.trimmed block := by
  have made : ∀ stretch : Stretch options.sentinel (outputLines output),
      ∃ block, extract options output = .ok block ∧
        Extracts options.dedent stretch.trimmed block := by
    intro stretch
    have rule := stretch.isRule_of_mem some (fun row => isLine_of_mem_outputLines)
    have filled := stretch.trimmed_ne_nil
    exact ⟨_, extract_of_isRule rule filled stretch.run_eq, extracts_of_isRule rule filled _⟩
  refine ⟨fun fault => ?_, nonempty_stretch, made⟩
  by_cases closed : ∀ row ∈ outputLines output, ¬ options.sentinel <+: trimStart row
  · rw [extract_of_closed closed, Except.error.injEq, eq_comm]
    exact (and_iff_left closed).symm
  · obtain ⟨row, member, opening⟩ := by simpa using closed
    obtain ⟨stretch⟩ := nonempty_stretch ⟨row, member, opening⟩
    obtain ⟨block, extracted, -⟩ := made stretch
    rw [extracted]
    exact iff_of_false (fun failed => by cases failed) (fun both => closed both.2)

/-- An output with rules behind mixed indentation, and with carriage returns and wide spaces. -/
def mixedOutput : Text :=
  "x\r\n \tx! a \u3000\r\n \t\tb\n \t c\r\n \u3000\r\nx! d".toList

def mixedStretch : Stretch "x! ".toList (outputLines mixedOutput) where
  above := ["x".toList]
  first := " \tx! a \u3000".toList
  body := [" \t\tb".toList, " \t c".toList]
  below := [" \u3000".toList, "x! d".toList]
  rows_eq := by decide +kernel
  closed_above := by decide +kernel
  opening := by decide +kernel
  content := by decide +kernel
  ends := by decide +kernel

theorem extract_stretch_mixedOutput :
    ∃ block, extract ⟨"x! ".toList, true⟩ mixedOutput = .ok block ∧
      Extracts true (["x! a", "\tb", " c"].map (" \t".toList ++ String.toList ·)) block ∧
      block.text = "x! a\n\tb\n c".toList := by
  obtain ⟨-, -, made⟩ := extract_stretch ⟨"x! ".toList, true⟩ (by decide) mixedOutput
  obtain ⟨block, extracted, extracts⟩ := made mixedStretch
  have cut : extract ⟨"x! ".toList, true⟩ mixedOutput = .ok ⟨"x! a\n\tb\n c".toList⟩ := by cbv
  cases extracted.symm.trans cut
  exact ⟨_, cut, extracts, rfl⟩

end ParserRefresh.Rules
