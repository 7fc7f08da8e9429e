import ParserRefresh.Proofs.ModuleBoundaries
import ParserRefresh.Proofs.TestDivision

/-! # Test modules

A module with a sentinel among the attributes of its declaration is a test block from the sentinel
on. It leaves no trace when the sentinel comes first. Attributes in front of it stay, as lines above
an item that they were not written for. -/

namespace ParserRefresh.Modules

open Text Declaration Tests

variable {files : FileSystem} {unit : Text} {path : Path} {number : Nat} {sentinel line : Text}
  {declaration : Declaration}

/-- The lines of the attributes in front of the first sentinel. -/
def linesInFront (sentinel : Text) (declaration : Declaration) : List Text :=
  (declaration.attributes.takeWhile (· ≠ sentinel)).map (declaration.indent ++ ·)

theorem linesInFront_eq_nil_iff (listed : sentinel ∈ declaration.attributes) :
    linesInFront sentinel declaration = [] ↔ declaration.attributes.head? = some sentinel := by
  rw [linesInFront, List.map_eq_nil_iff]
  cases attributes : declaration.attributes with
  | nil =>
    rw [attributes] at listed
    cases listed
  | cons first others =>
    rw [List.takeWhile_cons, List.head?_cons, Option.some_inj]
    by_cases same : first = sentinel
    · simp [same]
    · simp [same]

theorem trim_ne_of_mem_linesInFront (declared : parse? line number = some declaration) {row : Text}
    (member : row ∈ linesInFront sentinel declaration) : trim row ≠ sentinel := by
  obtain ⟨written, inFront, rfl⟩ := List.mem_map.mp member
  have listed := (List.takeWhile_sublist _).subset inFront
  have other := List.mem_takeWhile_imp inFront
  rw [trim_attributeLine declared listed]
  exact of_decide_eq_true other

theorem ne_nil_of_mem_attributes (declared : parse? line number = some declaration) {written : Text}
    (member : written ∈ declaration.attributes) : written ≠ [] := by
  obtain ⟨inner, rfl⟩ := exists_attribute_of_parse? declared member
  exact List.cons_ne_nil _ _

theorem leading_attributeLine (declared : parse? line number = some declaration) {written : Text}
    (member : written ∈ declaration.attributes) :
    leading (declaration.indent ++ written) = declaration.indent := by
  obtain ⟨inner, rfl⟩ := exists_attribute_of_parse? declared member
  exact takeWhile_append_cons (indent_spaces_of_parse? declared) (by decide)

/-- From its first sentinel on, the block of a module is a test block. -/
theorem exists_block_eq (declared : parse? line number = some declaration)
    (spaces : ∀ c ∈ unit, isIndent c = true) (further : unit ≠ [])
    (listed : sentinel ∈ declaration.attributes) (body : Text) :
    ∃ span : Span (IsSentinel sentinel) Ends,
      block unit declaration body = linesInFront sentinel declaration ++ span.rows := by
  obtain ⟨front, behind, attributes, first⟩ := List.eq_append_cons_of_mem listed
  have inFront : linesInFront sentinel declaration = front.map (declaration.indent ++ ·) := by
    have others : ∀ written ∈ front, decide (written ≠ sentinel) = true := by
      intro written member
      exact decide_eq_true (fun same => first (same ▸ member))
    rw [linesInFront, attributes, takeWhile_append_cons others (by simp)]
  let inside := behind.map (declaration.indent ++ ·) ++ declaration.openingLine ::
    indentLines (declaration.indent ++ unit) (lines body)
  have cut : declaration.attributeLines ++ declaration.openingLine ::
      indentLines (declaration.indent ++ unit) (lines body) =
        linesInFront sentinel declaration ++ (declaration.indent ++ sentinel) :: inside := by
    simp [attributeLines, attributes, inFront, inside]
  have place := leading_attributeLine declared listed
  have open_inside : ∀ row ∈ inside, ¬ Ends (declaration.indent ++ sentinel) row := by
    intro row member ended
    have stays := closes_above_closingLine declared spaces further (lines body) row
      (cut ▸ List.mem_append_right _ (List.mem_cons_of_mem _ member))
    rw [ends_iff_closes, place, stays] at ended
    cases ended
  have closed : Ends (declaration.indent ++ sentinel) declaration.closingLine := by
    rw [ends_iff_closes, place]
    exact closes_closingLine declaration
  refine ⟨⟨_, inside, _, trim_attributeLine declared listed, open_inside, closed⟩, ?_⟩
  rw [block, cut, List.append_assoc]
  rfl

/-- Of a module with a sentinel there stay the attributes in front of it. -/
theorem scan_block_sentinel (declared : parse? line number = some declaration)
    (spaces : ∀ c ∈ unit, isIndent c = true) (further : unit ≠ [])
    (listed : sentinel ∈ declaration.attributes) (body : Text) (number : Nat) :
    ∃ warnings, scan sentinel none number (block unit declaration body) =
      ⟨linesInFront sentinel declaration, warnings, none⟩ := by
  obtain ⟨span, whole⟩ := exists_block_eq declared spaces further listed body
  rw [whole, scan_append,
    scan_of_forall_ne number (fun _ member => trim_ne_of_mem_linesInFront declared member)]
  dsimp only
  rw [scan_span, Scan.and, List.append_nil]
  exact ⟨_, rfl⟩

/-! ## Texts with a test module -/

/-- To inline lines in a text is to inline the lines. -/
theorem inline_unlines {rows out : List Text} (flat : ∀ row ∈ rows, IsLine row)
    (done : inlineLines files unit [files.identity path] path 1 rows = .ok out) :
    inline files unit path (unlines rows) = .ok (unlines out) := by
  cases rows with
  | nil =>
    rw [inlineLines] at done
    cases done
    have blank : inlineLines files unit [files.identity path] path 1 [[]] = .ok [[]] :=
      inlineLines_of_undeclared (by decide +kernel)
    exact map_eq_ok_iff.mpr ⟨_, blank, rfl⟩
  | cons row rows =>
    rw [inline, lines_unlines (List.cons_ne_nil row rows) flat, done]
    rfl

/-- To strip lines in a text is to scan the lines. -/
theorem result_strip_unlines (marked : sentinel ≠ []) {rows : List Text}
    (flat : ∀ row ∈ rows, IsLine row) :
    (strip sentinel (unlines rows)).result =
      outcome sentinel (scan sentinel none 1 rows).kept (scan sentinel none 1 rows).unclosed := by
  rw [result_strip]
  cases rows with
  | nil =>
    have blank : lines (unlines []) = [[]] := rfl
    have clean : ∀ row ∈ [([] : Text)], trim row ≠ sentinel := by
      intro row member
      rw [List.mem_singleton.mp member]
      exact fun same => marked same.symm
    rw [blank, scan_of_forall_ne 1 clean, scan]
    rfl
  | cons row rows => rw [lines_unlines (List.cons_ne_nil row rows) flat]

theorem toOption_outcome {left right : Option Tests.Block}
    (same : left.map Block.indent = right.map Block.indent) (kept : List Text) :
    (outcome sentinel kept left).toOption = (outcome sentinel kept right).toOption := by
  cases left with
  | none =>
    cases right with
    | none => rfl
    | some block => cases same
  | some block =>
    cases right with
    | none => cases same
    | some another => rfl

/-- A text without one of its declarations is inlined to the same lines without the block of the
module. -/
theorem exists_inline_without {text out : Text} {above below : List Text} (unitLine : IsLine unit)
    (inlined : inline files unit path text = .ok out) (cut : lines text = above ++ line :: below)
    (declared : parse? line (above.length + 1) = some declaration) :
    ∃ before body after, inlineLines files unit [files.identity path] path 1 above = .ok before ∧
      inlineLines files unit [files.identity path] path 1 (above ++ below) =
        .ok (before ++ after) ∧
      inline files unit path (unlines (above ++ below)) = .ok (unlines (before ++ after)) ∧
      (∀ row ∈ before ++ after, IsLine row) ∧
      lines out = before ++ block unit declaration body ++ after := by
  obtain ⟨before, body, after, first, -, last, whole⟩ :=
    exists_parts_of_inline unitLine inlined cut declared
  have together := inlineLines_append first last
  have flat : ∀ row ∈ above ++ below, IsLine row := by
    intro row member
    have fewer : List.Sublist (above ++ below) (above ++ line :: below) :=
      (List.sublist_cons_self line below).append_left above
    exact isLine_of_mem_lines (cut ▸ fewer.subset member)
  exact ⟨before, body, after, first, together, inline_unlines flat together,
    (inlineLines_isLine unitLine flat together).1, whole⟩

/-- Lines around a module with a sentinel are scanned as they would be without it. -/
theorem scan_around_block (declared : parse? line number = some declaration)
    (spaces : ∀ c ∈ unit, isIndent c = true) (further : unit ≠ [])
    (listed : sentinel ∈ declaration.attributes) {before : List Text}
    (outside : (scan sentinel none 1 before).unclosed = none) (body : Text) (after : List Text) :
    ∃ later, (scan sentinel none 1 (before ++ after)).kept =
        (scan sentinel none 1 before).kept ++ later ∧
      (scan sentinel none 1 (before ++ block unit declaration body ++ after)).kept =
        (scan sentinel none 1 before).kept ++ linesInFront sentinel declaration ++ later ∧
      (scan sentinel none 1 (before ++ block unit declaration body ++ after)).unclosed.map
          Block.indent =
        (scan sentinel none 1 (before ++ after)).unclosed.map Block.indent := by
  obtain ⟨warnings, scanned⟩ := scan_block_sentinel declared spaces further listed body
    (1 + before.length)
  have upper : scan sentinel none 1 (before ++ block unit declaration body) =
      (scan sentinel none 1 before).and ⟨linesInFront sentinel declaration, warnings, none⟩ := by
    rw [scan_append, outside, scanned]
  obtain ⟨kept, unclosed⟩ := scan_behind outside 1 after
  obtain ⟨keptAround, unclosedAround⟩ := scan_behind (congrArg Scan.unclosed upper) 1 after
  rw [upper] at keptAround
  exact ⟨_, kept, keptAround, unclosedAround.trans unclosed.symm⟩

/-- Inlining and stripping removes a module with a sentinel among its attributes without a trace
exactly when the sentinel comes first. Otherwise the attributes in front of it stay, and nothing
else of the module does. -/
theorem kept_inline_testModule {text out : Text} {above below before : List Text}
    (spaces : ∀ c ∈ unit, isIndent c = true) (further : unit ≠ [])
    (inlined : inline files unit path text = .ok out) (cut : lines text = above ++ line :: below)
    (declared : parse? line (above.length + 1) = some declaration)
    (listed : sentinel ∈ declaration.attributes)
    (first : inlineLines files unit [files.identity path] path 1 above = .ok before)
    (outside : (scan sentinel none 1 before).unclosed = none) :
    ∃ rows, inlineLines files unit [files.identity path] path 1 (above ++ below) = .ok rows ∧
      inline files unit path (unlines (above ++ below)) = .ok (unlines rows) ∧
      (∃ later, (scan sentinel none 1 rows).kept = (scan sentinel none 1 before).kept ++ later ∧
        (scan sentinel none 1 (lines out)).kept = (scan sentinel none 1 before).kept ++
          linesInFront sentinel declaration ++ later) ∧
      ((scan sentinel none 1 (lines out)).kept = (scan sentinel none 1 rows).kept ↔
        declaration.attributes.head? = some sentinel) ∧
      (declaration.attributes.head? = some sentinel →
        (strip sentinel out).result.toOption =
          (strip sentinel (unlines rows)).result.toOption) := by
  have unitLine : IsLine unit := fun inside => by cases spaces _ inside
  obtain ⟨start, body, after, alone, together, without, flat, whole⟩ :=
    exists_inline_without unitLine inlined cut declared
  cases first.symm.trans alone
  obtain ⟨later, kept, keptOut, unclosed⟩ :=
    scan_around_block declared spaces further listed outside body after
  rw [← whole] at keptOut unclosed
  refine ⟨before ++ after, together, without, ⟨later, kept, keptOut⟩, ?_, ?_⟩
  · rw [kept, keptOut, ← linesInFront_eq_nil_iff listed]
    simp
  · intro head
    have nothing := (linesInFront_eq_nil_iff listed).mpr head
    have marked := ne_nil_of_mem_attributes declared listed
    rw [result_strip, result_strip_unlines marked flat, kept, keptOut, nothing, List.append_nil]
    exact toOption_outcome unclosed _

/-- A module of tests, and nothing else. -/
def testsOnly : FileSystem where
  entries := [(["tests.rs".toList], .file (.text "fn helper() \x7b\x7d\n".toList) false)]
  workingDirectory := []

theorem kept_inline_testModule_sentinel_first :
    ∃ out, inline testsOnly "  ".toList ⟨"parser.rs".toList⟩
        "fn a();\n\t#[cfg(test)] #[allow(unused)] mod tests;\nfn b();".toList = .ok out ∧
      (scan "#[cfg(test)]".toList none 1 (lines out)).kept =
        ["fn a();".toList, "fn b();".toList] ∧
      (strip "#[cfg(test)]".toList out).result.toOption = some "fn a();\nfn b();".toList := by
  have inlined : inline testsOnly "  ".toList ⟨"parser.rs".toList⟩
      "fn a();\n\t#[cfg(test)] #[allow(unused)] mod tests;\nfn b();".toList =
      .ok ("fn a();\n\t#[cfg(test)]\n\t#[allow(unused)]\n\tmod tests \x7b\n".toList ++
        "\t  fn helper() \x7b\x7d\n\t\x7d\nfn b();".toList) := by
    decide +kernel
  have cut : lines "fn a();\n\t#[cfg(test)] #[allow(unused)] mod tests;\nfn b();".toList =
      ["fn a();".toList] ++ "\t#[cfg(test)] #[allow(unused)] mod tests;".toList ::
        ["fn b();".toList] := by decide
  have declared : parse? "\t#[cfg(test)] #[allow(unused)] mod tests;".toList 2 =
      some ⟨['\t'], ["#[cfg(test)]".toList, "#[allow(unused)]".toList], none, "tests".toList,
        2⟩ := by
    decide +kernel
  obtain ⟨rows, together, -, -, same, stripped⟩ :=
    kept_inline_testModule (by simp [isIndent]) (by decide) inlined cut declared (by decide)
      (inlineLines_of_undeclared (by decide +kernel)) (by decide : (scan "#[cfg(test)]".toList none 1
        ["fn a();".toList]).unclosed = none)
  rw [inlineLines_of_undeclared (by decide +kernel)] at together
  cases together
  exact ⟨_, inlined, (same.mpr rfl).trans (by decide), (stripped rfl).trans (by decide)⟩

/-- An attribute in front of the sentinel stays, and falls to the function below. -/
theorem not_forall_kept_inline_testModule :
    ¬ ∀ (files : FileSystem) (unit : Text) (path : Path) (sentinel line text out : Text)
      (declaration : Declaration) (above below before rows : List Text),
      (∀ c ∈ unit, isIndent c = true) → unit ≠ [] → inline files unit path text = .ok out →
      lines text = above ++ line :: below →
      parse? line (above.length + 1) = some declaration → sentinel ∈ declaration.attributes →
      inlineLines files unit [files.identity path] path 1 above = .ok before →
      (scan sentinel none 1 before).unclosed = none →
      inlineLines files unit [files.identity path] path 1 (above ++ below) = .ok rows →
        (scan sentinel none 1 (lines out)).kept = (scan sentinel none 1 rows).kept := by
  intro all
  have inlined : inline testsOnly "  ".toList ⟨"parser.rs".toList⟩
      "#[allow(unused)] #[cfg(test)] mod tests;\nfn f() \x7b\x7d".toList =
      .ok ("#[allow(unused)]\n#[cfg(test)]\nmod tests \x7b\n".toList ++
        "  fn helper() \x7b\x7d\n\x7d\nfn f() \x7b\x7d".toList) := by
    decide +kernel
  have cut : lines "#[allow(unused)] #[cfg(test)] mod tests;\nfn f() \x7b\x7d".toList =
      [] ++ "#[allow(unused)] #[cfg(test)] mod tests;".toList ::
        ["fn f() \x7b\x7d".toList] := by decide
  have declared : parse? "#[allow(unused)] #[cfg(test)] mod tests;".toList 1 =
      some ⟨[], ["#[allow(unused)]".toList, "#[cfg(test)]".toList], none, "tests".toList, 1⟩ := by
    decide +kernel
  have same := all testsOnly "  ".toList ⟨"parser.rs".toList⟩ "#[cfg(test)]".toList _ _ _ _ [] _ []
    _ (by simp [isIndent]) (by decide) inlined cut declared (by decide) (by rw [inlineLines]) rfl
    (inlineLines_of_undeclared (by decide +kernel))
  exact absurd same (by decide)

end ParserRefresh.Modules
