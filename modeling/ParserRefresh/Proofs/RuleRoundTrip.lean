import ParserRefresh.Proofs.ExtractedRules
import ParserRefresh.Proofs.Outcomes

/-! # Extracting rules that have been spliced

Rules that are extracted have no indentation in common and no blank line among them. Splicing puts
one indentation in front of all their lines and a blank line behind them, so where nothing above
opens rules, extracting finds these lines again and takes off what splicing has put in front. -/

namespace ParserRefresh.Rules

open Text

/-! ## Lines of output -/

theorem eq_append_return_of_getLast? {line : Text} (last : line.getLast? = some '\r') :
    line = line.dropLast ++ ['\r'] := by
  obtain ⟨front, rfl⟩ := List.getLast?_eq_some_iff.mp last
  rw [List.dropLast_concat]

theorem dropReturn_sameEnd (line : Text) : SameEnd (dropReturn line) line := by
  unfold dropReturn
  split
  · next last =>
    have cut := trimEnd_append_of_isBlank line.dropLast (show isBlank ['\r'] = true by decide)
    rw [← eq_append_return_of_getLast? last] at cut
    exact cut.symm
  · exact .refl line

/-- A line without white space at its end has no carriage return there. -/
theorem dropReturn_of_trimEnd {line : Text} (tight : trimEnd line = line) :
    dropReturn line = line := by
  have ends : trimEnd (dropReturn line) = line := (dropReturn_sameEnd line).trans tight
  have shorter : trimEnd (dropReturn line) <+: dropReturn line := trimEnd_isPrefix _
  rw [ends] at shorter
  refine (shorter.eq_of_length_le ?_).symm
  unfold dropReturn
  split
  · exact (List.dropLast_prefix line).length_le
  · exact Nat.le_refl _

/-- Lines that are not the last are lines of output, without the carriage return at their end. -/
theorem exists_outputLines_append {text : Text} {front after : List Text}
    (cut : lines text = front ++ after) (some : after ≠ []) :
    ∃ tail, outputLines text = front.map dropReturn ++ tail := by
  obtain ⟨inner, last, rfl⟩ := (List.eq_nil_or_concat' after).resolve_left some
  unfold outputLines
  dsimp only
  rw [cut, ← List.append_assoc, List.dropLast_concat, List.getLast?_concat, List.map_append]
  dsimp only
  split
  · exact ⟨_, rfl⟩
  · exact ⟨_, List.append_assoc _ _ _⟩

/-! ## Lines of rules -/

/-- Lines of rules, the first of which opens them. -/
structure IsRules (sentinel : Text) (rows : List Text) : Prop where
  opening : ∃ first rest, rows = first :: rest ∧ opens sentinel first = true
  rule : ∀ row ∈ rows, IsRule row

variable {sentinel indent : Text} {rows : List Text}

theorem opens_append (space : isBlank indent = true) (row : Text) :
    opens sentinel (indent ++ row) = opens sentinel row := by
  rw [opens, trimStart_append_of_isBlank space, opens]

theorem opens_eq_of_sameEnd (tight : trimEnd sentinel = sentinel) {left right : Text}
    (same : SameEnd left right) : opens sentinel left = opens sentinel right :=
  same.trimStart.isPrefixOf_eq sentinel tight

theorem isRules_map_append_iff (spaces : ∀ c ∈ indent, isIndent c = true) :
    IsRules sentinel (rows.map (indent ++ ·)) ↔ IsRules sentinel rows := by
  have space := isBlank_of_isIndent spaces
  constructor
  · rintro ⟨⟨first, rest, whole, opening⟩, rule⟩
    cases rows with
    | nil => cases whole
    | cons row rows =>
      obtain ⟨rfl, -⟩ := List.cons.inj whole
      refine ⟨⟨row, rows, rfl, (opens_append space row).symm.trans opening⟩, fun other member => ?_⟩
      exact (isRule_append_iff spaces).mp (rule _ (List.mem_map_of_mem member))
  · rintro ⟨⟨first, rest, rfl, opening⟩, rule⟩
    refine ⟨⟨_, _, rfl, (opens_append space first).trans opening⟩, fun other member => ?_⟩
    obtain ⟨row, there, rfl⟩ := List.mem_map.mp member
    exact (isRule_append_iff spaces).mpr (rule row there)

namespace IsRules

theorem ne_nil (rules : IsRules sentinel rows) : rows ≠ [] := by
  obtain ⟨first, rest, rfl, -⟩ := rules.opening
  exact List.cons_ne_nil _ _

theorem indentLines (rules : IsRules sentinel rows) (indent : Text) :
    Text.indentLines indent rows = rows.map (indent ++ ·) :=
  indentLines_of_isRule rules.rule indent

theorem lines_unlines (rules : IsRules sentinel rows) : lines (unlines rows) = rows :=
  lines_unlines_of_isRule rules.rule rules.ne_nil

end IsRules

/-! ## Finding rules -/

/-- What is found in program output are lines of rules. -/
theorem Stretch.isRules (stretch : Stretch sentinel rows) (some : sentinel ≠ [])
    (tight : trimEnd sentinel = sentinel) (single : ∀ row ∈ rows, IsLine row) :
    IsRules sentinel stretch.trimmed := by
  have opening : opens sentinel (trimEnd stretch.first) = true :=
    (opens_eq_of_sameEnd tight (trimEnd_trimEnd stretch.first)).trans (opens_iff.mpr stretch.opening)
  exact ⟨⟨_, _, rfl, opening⟩, stretch.isRule_of_mem some single⟩

/-- Lines of rules are found when nothing above opens rules and a blank line is below. -/
theorem run_append {front rules : List Text} (tail : List Text)
    (closed : ∀ row ∈ front, opens sentinel row = false) (isRules : IsRules sentinel rules) :
    run sentinel (front ++ (rules ++ [] :: tail)) = rules := by
  obtain ⟨first, rest, rfl, opening⟩ := isRules.opening
  let stretch : Stretch sentinel (front ++ (first :: rest ++ [] :: tail)) :=
    { above := front
      first := first
      body := rest
      below := [] :: tail
      rows_eq := rfl
      closed_above := fun row member starts => by
        rw [← opens_iff, closed row member] at starts
        cases starts
      opening := opens_iff.mp opening
      content := fun row member => (isRules.rule row (List.mem_cons_of_mem _ member)).content
      ends := fun row member => by
        rw [← Option.some.inj member]
        exact isBlank_nil }
  refine stretch.run_eq.trans ?_
  exact (List.map_congr_left (fun row member => (isRules.rule row member).tight)).trans
    (List.map_id _)

/-- Lines of rules that share no indentation are extracted without the one that stands in front of
all of them. -/
theorem extract_of_run {options : ExtractOptions} {output : Text} (dedent : options.dedent = true)
    (spaces : ∀ c ∈ indent, isIndent c = true) (rules : IsRules options.sentinel rows)
    (flush : commonIndent rows = [])
    (found : run options.sentinel (outputLines output) = rows.map (indent ++ ·)) :
    extract options output = .ok ⟨unlines rows⟩ := by
  have moved := (isRules_map_append_iff spaces).mpr rules
  obtain ⟨row, member⟩ := List.exists_mem_of_ne_nil _ rules.ne_nil
  have shared : commonIndent (rows.map (indent ++ ·)) = indent := by
    rw [← rules.indentLines, commonIndent_indentLines spaces member
      (rules.rule row member).content, flush, List.append_nil]
  have back : dedented (rows.map (indent ++ ·)) = rows := by
    rw [dedented, shared, List.map_map]
    exact (List.map_congr_left (fun row _ => List.drop_left)).trans (List.map_id rows)
  rw [extract_of_isRule moved.rule moved.ne_nil found, if_pos dedent, back]

/-- A block that is extracted consists of lines of rules that share no indentation. -/
theorem exists_isRules_of_extract {options : ExtractOptions} {output : Text} {block : RuleBlock}
    (some : options.sentinel ≠ []) (tight : trimEnd options.sentinel = options.sentinel)
    (dedent : options.dedent = true) (extracted : extract options output = .ok block) :
    ∃ rows, IsRules options.sentinel rows ∧ commonIndent rows = [] ∧ block = ⟨unlines rows⟩ := by
  by_cases closed : ∀ row ∈ outputLines output, ¬ options.sentinel <+: trimStart row
  · rw [extract_of_closed closed] at extracted
    cases extracted
  · obtain ⟨row, member, opening⟩ := by simpa using closed
    obtain ⟨stretch⟩ := nonempty_stretch ⟨row, member, opening⟩
    have rules := stretch.isRules some tight (fun row => isLine_of_mem_outputLines)
    have spaces := isIndent_of_mem_commonIndent_of_isRule rules.rule rules.ne_nil
    have whole := map_append_dedented rules.rule
    have cut := (isRules_map_append_iff spaces).mp (whole.symm ▸ rules)
    rw [extract_of_isRule rules.rule rules.ne_nil stretch.run_eq, if_pos dedent] at extracted
    exact ⟨_, cut, commonIndent_dedented rules.rule rules.ne_nil, (Except.ok.inj extracted).symm⟩

/-! ## Splicing and extracting -/

/-- What was extracted and spliced is extracted from the source again, unless rules are opened above
the region or by its start marker. -/
theorem extract_replace {options : ExtractOptions} {markers : Markers}
    {compiled original spliced : Text} {block : RuleBlock} (some : options.sentinel ≠ [])
    (tight : trimEnd options.sentinel = options.sentinel) (dedent : options.dedent = true)
    (extracted : extract options compiled = .ok block) (region : Region markers (lines original))
    (closed : ∀ row ∈ region.before ++ [region.start], opens options.sentinel row = false)
    (replaced : replace markers block original = .ok spliced) :
    extract options spliced = .ok block := by
  obtain ⟨again, rfl⟩ := replace_eq_ok_iff.mp replaced
  obtain rfl := Subsingleton.elim again region
  obtain ⟨rows, rules, flush, rfl⟩ := exists_isRules_of_extract some tight dedent extracted
  have spaces : ∀ c ∈ leading again.start, isIndent c = true := fun c => isIndent_of_mem_leading
  have indented : IsRules options.sentinel (rows.map (leading again.start ++ ·)) :=
    (isRules_map_append_iff spaces).mpr rules
  -- What is put between the markers, with the lines above it: none of these opens rules.
  have cut : lines (unlines (again.refilled (again.filling ⟨unlines rows⟩))) =
      again.before ++ [again.start] ++ [[]] ++ (rows.map (leading again.start ++ ·) ++ [[]]) ++
        again.close :: again.rest := by
    rw [again.lines_unlines_refilled, Region.refilled, Region.filling, rules.lines_unlines,
      rules.indentLines]
    simp
  obtain ⟨tail, output⟩ := exists_outputLines_append cut (List.cons_ne_nil _ _)
  have kept : (rows.map (leading again.start ++ ·) ++ [[]]).map dropReturn =
      rows.map (leading again.start ++ ·) ++ [[]] := by
    rw [List.map_append, List.map_congr_left (fun row member =>
      dropReturn_of_trimEnd (indented.rule row member).tight), List.map_id']
    rfl
  have closedAbove : ∀ row ∈ (again.before ++ [again.start] ++ [[]]).map dropReturn,
      opens options.sentinel row = false := by
    intro row member
    obtain ⟨source, there, rfl⟩ := List.mem_map.mp member
    rw [opens_eq_of_sameEnd tight (dropReturn_sameEnd source)]
    rcases List.mem_append.mp there with above | blank
    · exact closed source above
    · rw [List.mem_singleton.mp blank, ← Bool.not_eq_true]
      exact fun opening => by cases isBlank_of_opens some opening
  refine extract_of_run dedent spaces rules flush ?_
  rw [output, List.map_append, kept]
  rw [List.append_assoc _ _ tail, List.append_assoc _ [[]] tail]
  exact run_append tail closedAbove indented

/-- A compiler's output with a note above its rules, which are indented, and other rules below. -/
def notedOutput : Text :=
  "note\r\n  rule!( Grammar <-\r\n  \tx\r\n\r\nrule!( Grammar <- y".toList

def tabbedSource : Text :=
  "f\r\n\t// RULES START\r\nrule!( Grammar <- z\n// RULES END\nrule!( Grammar <- z".toList

def tabbedRegion : Region {} (lines tabbedSource) where
  before := ["f\r".toList]
  start := "\t// RULES START\r".toList
  interior := ["rule!( Grammar <- z".toList]
  close := "// RULES END".toList
  rest := ["rule!( Grammar <- z".toList]
  rows_eq := by decide +kernel
  opens := by decide +kernel
  closed_before := by decide +kernel
  closes := by decide +kernel
  open_inside := by decide +kernel

theorem extract_replace_tabbedSource :
    ∃ block spliced, extract {} notedOutput = .ok block ∧
      (∀ row ∈ tabbedRegion.before ++ [tabbedRegion.start],
        opens ({} : ExtractOptions).sentinel row = false) ∧
      replace {} block tabbedSource = .ok spliced ∧ extract {} spliced = .ok block := by
  have extracted : extract {} notedOutput = .ok ⟨"rule!( Grammar <-\n\tx".toList⟩ := by cbv
  have closed : ∀ row ∈ tabbedRegion.before ++ [tabbedRegion.start],
      opens ({} : ExtractOptions).sentinel row = false := by
    decide +kernel
  have replaced : replace {} ⟨"rule!( Grammar <-\n\tx".toList⟩ tabbedSource =
      .ok ("f\r\n\t// RULES START\r\n\n\trule!( Grammar <-\n\t\tx\n\n".toList ++
        "// RULES END\nrule!( Grammar <- z".toList) := by
    cbv
  exact ⟨_, _, extracted, closed, replaced,
    extract_replace (by decide) (by decide) rfl extracted tabbedRegion closed replaced⟩

end ParserRefresh.Rules
