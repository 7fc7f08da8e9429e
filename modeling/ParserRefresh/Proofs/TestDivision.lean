import ParserRefresh.Proofs.Division
import ParserRefresh.Proofs.TestBlocks

/-! # Test blocks removed

The lines of a text are divided in one way into lines outside of test blocks, test blocks and at
most one block, the last one, that is never closed. Stripping removes the blocks, warns about those
with more than one item and fails on the block that is never closed. -/

namespace ParserRefresh.Tests

open Text

variable {sentinel : Text} {rows : List Text}

/-- A line that opens a test block. -/
def IsSentinel (sentinel row : Text) : Prop := trim row = sentinel

/-- A line that closes the test block of the line `opening`. -/
def Ends (opening row : Text) : Prop := trimEnd row = leading opening ++ ['}']

instance (sentinel row : Text) : Decidable (IsSentinel sentinel row) :=
  inferInstanceAs (Decidable (trim row = sentinel))

instance (opening row : Text) : Decidable (Ends opening row) :=
  inferInstanceAs (Decidable (trimEnd row = leading opening ++ ['}']))

theorem ends_iff_closes {opening row : Text} :
    Ends opening row ↔ closes (leading opening) row = true := beq_iff_eq.symm

/-- Lines divided at their test blocks. -/
abbrev TestDivision (sentinel : Text) (rows : List Text) : Type :=
  Division (IsSentinel sentinel) Ends rows

/-- How many items start inside a test block, at the indentation of its sentinel. -/
def itemCount (span : Span (IsSentinel sentinel) Ends) : Nat :=
  span.inside.countP (startsItem (leading span.opening))

/-- One warning for each block with more than one item, at the line of its sentinel. -/
def blockWarnings (sentinel : Text) (blocks : List (Nat × Span (IsSentinel sentinel) Ends)) :
    List Warning :=
  (blocks.filter (fun block => 2 ≤ itemCount block.2)).map
    (fun block => .manyItems sentinel block.1 (itemCount block.2))

/-! ## Scans of divided lines -/

def openBlock (number : Nat) (opening : Text) (inside : List Text) : Block :=
  Block.passAll ⟨leading opening, number, 0⟩ inside

theorem warnings_openBlock (number : Nat) (span : Span (IsSentinel sentinel) Ends) :
    (openBlock number span.opening span.inside).warnings sentinel =
      blockWarnings sentinel [(number, span)] := by
  have counted : (openBlock number span.opening span.inside).items = itemCount span :=
    Nat.zero_add _
  rw [Block.warnings, counted, blockWarnings]
  by_cases many : 2 ≤ itemCount span
  · rw [if_pos (Nat.lt_of_succ_le many), List.filter_singleton, decide_eq_true many]
    rfl
  · rw [if_neg (fun more => many (Nat.succ_le_of_lt more)), List.filter_singleton,
      decide_eq_false many]
    rfl

/-- From its sentinel on, a block is open as long as no line closes it. -/
theorem scan_opening {opening : Text} {inside : List Text} (opened : IsSentinel sentinel opening)
    (open_inside : ∀ row ∈ inside, ¬ Ends opening row) (number : Nat) :
    scan sentinel none number (opening :: inside) =
      ⟨[], [], some (openBlock number opening inside)⟩ := by
  rw [scan_opened opened]
  apply scan_of_forall_not_closes
  intro row member
  exact Bool.eq_false_iff.mpr (fun closed => open_inside row member (ends_iff_closes.mpr closed))

theorem scan_span (number : Nat) (span : Span (IsSentinel sentinel) Ends) :
    scan sentinel none number span.rows = ⟨[], blockWarnings sentinel [(number, span)], none⟩ := by
  have ended : closes (openBlock number span.opening span.inside).indent span.closing = true :=
    ends_iff_closes.mp span.closed
  rw [Span.rows, ← List.cons_append, scan_append, scan_opening span.opened span.open_inside]
  dsimp only
  rw [scan_closed ended, warnings_openBlock, scan]
  simp only [Scan.and, List.nil_append, List.append_nil]

/-- What is found in the lines that are read at once. -/
theorem scan_part (number : Nat) (part : Part (IsSentinel sentinel) Ends) :
    scan sentinel none number part.rows =
      ⟨part.kept, blockWarnings sentinel (numbered number [part]), none⟩ := by
  cases part with
  | line row plain =>
    rw [Part.rows, scan_kept plain]
    rfl
  | block span => exact scan_span number span

theorem scan_parts (number : Nat) (parts : List (Part (IsSentinel sentinel) Ends)) :
    scan sentinel none number (parts.flatMap Part.rows) =
      ⟨parts.flatMap Part.kept, blockWarnings sentinel (numbered number parts), none⟩ := by
  induction parts generalizing number with
  | nil => rfl
  | cons part parts ih =>
    rw [List.flatMap_cons, scan_append, scan_part, ih, numbered_cons number part parts,
      List.flatMap_cons]
    simp only [Scan.and, blockWarnings, List.filter_append, List.map_append]

theorem scan_division (division : TestDivision sentinel rows) :
    scan sentinel none 1 rows =
      ⟨division.kept, blockWarnings sentinel division.blocks,
        division.pending.map fun pending =>
          openBlock division.pendingLine pending.opening pending.inside⟩ := by
  calc
    scan sentinel none 1 rows =
        scan sentinel none 1
          (division.parts.flatMap Part.rows ++ division.pending.elim [] Pending.rows) := by
      rw [division.rows_eq]
    _ = Scan.and ⟨division.kept, blockWarnings sentinel division.blocks, none⟩
          (scan sentinel none division.pendingLine (division.pending.elim [] Pending.rows)) := by
      rw [scan_append, scan_parts]
      rfl
    _ = _ := by
      cases division.pending with
      | none =>
        rw [Option.elim_none, scan]
        simp [Scan.and]
      | some pending =>
        rw [Option.elim_some, Pending.rows, scan_opening pending.opened pending.open_inside]
        simp [Scan.and]

/-! ## Stripping divided lines -/

theorem strip_of_pending_eq_none {text : Text} (division : TestDivision sentinel (lines text))
    (closed : division.pending = none) :
    strip sentinel text =
      ⟨.ok (unlines division.kept), blockWarnings sentinel division.blocks⟩ := by
  rw [strip, scan_division division, closed]
  rfl

theorem strip_of_pending_eq_some {text : Text} (division : TestDivision sentinel (lines text))
    {pending : Pending (IsSentinel sentinel) Ends} (unclosed : division.pending = some pending) :
    strip sentinel text =
      ⟨.error (Cause.missingMarker (leading pending.opening ++ ['}'])
        (neverClosed sentinel division.pendingLine)), blockWarnings sentinel division.blocks⟩ := by
  rw [strip, scan_division division, unclosed]
  rfl

/-- A text without sentinels is left as it is, and is worth no warning. -/
theorem strip_of_forall_ne {text : Text} (clean : ∀ row ∈ lines text, trim row ≠ sentinel) :
    strip sentinel text = .succeed text := by
  rw [strip, scan_of_forall_ne 1 clean]
  dsimp only
  rw [unlines_lines]
  rfl

/-- Stripping removes the test blocks of the one division of a text, and warns about each with more
than one item; what is left has no sentinel and is left as it is. If a block is never closed, the
brace that it lacks is named. -/
theorem exists_testDivision (marked : sentinel ≠ []) (text : Text) :
    ∃ division : TestDivision sentinel (lines text),
      (∀ other : TestDivision sentinel (lines text), other = division) ∧
      (division.pending = none →
        strip sentinel text =
          ⟨.ok (unlines division.kept), blockWarnings sentinel division.blocks⟩ ∧
        (∀ row ∈ lines (unlines division.kept), trim row ≠ sentinel) ∧
        strip sentinel (unlines division.kept) = .succeed (unlines division.kept)) ∧
      ∀ pending, division.pending = some pending →
        strip sentinel text =
          ⟨.error (Cause.missingMarker (leading pending.opening ++ ['}'])
            (neverClosed sentinel division.pendingLine)),
            blockWarnings sentinel division.blocks⟩ := by
  obtain ⟨division⟩ : Nonempty (TestDivision sentinel (lines text)) :=
    Division.exists_division (lines text)
  have clean : ∀ row ∈ lines (unlines division.kept), trim row ≠ sentinel := by
    have blank : trim [] ≠ sentinel := fun same => marked same.symm
    have flat : ∀ row ∈ division.kept, IsLine row :=
      fun row member => isLine_of_mem_lines (division.kept_subset member)
    rw [forall_mem_lines_unlines blank flat]
    exact fun row member => division.not_opens_of_mem_kept member
  refine ⟨division, fun other => Subsingleton.elim other division, ?_, ?_⟩
  · intro closed
    exact ⟨strip_of_pending_eq_none division closed, clean, strip_of_forall_ne clean⟩
  · intro pending unclosed
    exact strip_of_pending_eq_some division unclosed

/-- A text with a test block of two items, in which a sentinel and a brace stand at other
indentations. -/
def nestedBlocks : Text :=
  "fn a();\n #[test]\n fn b();\n#[test]\n\x7d\n fn c();\n \x7d \nfn d();".toList

def nestedDivision : TestDivision "#[test]".toList (lines nestedBlocks) where
  parts :=
    [.line "fn a();".toList (by decide),
     .block ⟨" #[test]".toList, [" fn b();", "#[test]", "\x7d", " fn c();"].map String.toList,
       " \x7d ".toList, by decide, by decide, by decide⟩,
     .line "fn d();".toList (by decide)]
  pending := none
  rows_eq := by decide

/-- A text with a test block and the start of another. -/
def halfBlocks : Text := "#[test]\n\x7d\n\t#[test]\nmod t \x7b\n\x7d".toList

def halfDivision : TestDivision "#[test]".toList (lines halfBlocks) where
  parts := [.block ⟨"#[test]".toList, [], "\x7d".toList, by decide, by decide, by decide⟩]
  pending :=
    some ⟨"\t#[test]".toList, ["mod t \x7b", "\x7d"].map String.toList, by decide, by decide⟩
  rows_eq := by decide

theorem exists_testDivision_of_nested_and_half :
    strip "#[test]".toList nestedBlocks =
        ⟨.ok "fn a();\nfn d();".toList, [.manyItems "#[test]".toList 2 2]⟩ ∧
      strip "#[test]".toList "fn a();\nfn d();".toList = .succeed "fn a();\nfn d();".toList ∧
      strip "#[test]".toList halfBlocks =
        ⟨.error (Cause.missingMarker "\t\x7d".toList (neverClosed "#[test]".toList 3)), []⟩ := by
  have marked : "#[test]".toList ≠ [] := by decide
  obtain ⟨first, onlyFirst, closed, -⟩ := exists_testDivision marked nestedBlocks
  obtain ⟨second, onlySecond, -, unclosed⟩ := exists_testDivision marked halfBlocks
  rw [← onlyFirst nestedDivision] at closed
  rw [← onlySecond halfDivision] at unclosed
  obtain ⟨stripped, -, again⟩ := closed rfl
  have failed := unclosed _ rfl
  have kept : unlines nestedDivision.kept = "fn a();\nfn d();".toList := by decide
  rw [kept] at stripped again
  have warned : blockWarnings "#[test]".toList nestedDivision.blocks =
      [.manyItems "#[test]".toList 2 2] := by decide
  rw [warned] at stripped
  exact ⟨stripped, again, failed⟩

end ParserRefresh.Tests
