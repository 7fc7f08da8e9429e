import ParserRefresh.Proofs.SameLines
import ParserRefresh.Source.Tests

/-! # What a test scan keeps

A scan keeps lines of its input in their order and none that is a sentinel. The scan of lines and
more lines behind them goes on from where the scan of the first ones ends. White space at the ends
of lines changes nothing but the same white space of the lines that are kept, provided that the
sentinel is not empty. -/

namespace ParserRefresh.Tests

open Text

variable {sentinel : Text} {state : Option Block} {number : Nat}

theorem kept_sublist (rows : List Text) :
    List.Sublist (scan sentinel state number rows).kept rows := by
  fun_induction scan sentinel state number rows with
  | case1 => exact List.Sublist.refl _
  | case2 number line rest opened ih => exact ih.cons line
  | case3 number line rest other later ih => exact ih.cons_cons line
  | case4 number block line rest closed later ih => exact ih.cons line
  | case5 number block line rest inside ih => exact ih.cons line

theorem trim_ne_of_mem_kept {row : Text} {rows : List Text}
    (member : row ∈ (scan sentinel state number rows).kept) : trim row ≠ sentinel := by
  fun_induction scan sentinel state number rows with
  | case1 => cases member
  | case2 number line rest opened ih => exact ih member
  | case3 number line rest other later ih =>
    rcases List.mem_cons.mp member with rfl | there
    · exact other
    · exact ih there
  | case4 number block line rest closed later ih => exact ih member
  | case5 number block line rest inside ih => exact ih member

theorem result_strip_eq_ok_iff {text out : Text} :
    (strip sentinel text).result = .ok out ↔
      (scan sentinel none 1 (lines text)).unclosed = none ∧
        unlines (scan sentinel none 1 (lines text)).kept = out := by
  dsimp only [strip]
  split
  · next closed => simp [closed]
  · next block unclosed => simp [unclosed]

/-! ## Scans in parts -/

/-- What two scans have found when the second went on where the first one ended. -/
def Scan.and (first later : Scan) : Scan :=
  ⟨first.kept ++ later.kept, first.warnings ++ later.warnings, later.unclosed⟩

theorem Scan.and_assoc (first second third : Scan) :
    (first.and second).and third = first.and (second.and third) := by
  simp only [Scan.and, List.append_assoc]

section Steps

variable {row : Text} {block : Block}

theorem scan_opened (opened : trim row = sentinel) (number : Nat) (rows : List Text) :
    scan sentinel none number (row :: rows) =
      scan sentinel (some ⟨leading row, number, 0⟩) (number + 1) rows := by
  rw [scan, if_pos opened]

theorem scan_kept (other : trim row ≠ sentinel) (number : Nat) (rows : List Text) :
    scan sentinel none number (row :: rows) =
      Scan.and ⟨[row], [], none⟩ (scan sentinel none (number + 1) rows) := by
  rw [scan, if_neg other]
  rfl

theorem scan_closed (closed : closes block.indent row = true) (number : Nat) (rows : List Text) :
    scan sentinel (some block) number (row :: rows) =
      Scan.and ⟨[], block.warnings sentinel, none⟩ (scan sentinel none (number + 1) rows) := by
  rw [scan, if_pos closed]
  rfl

theorem scan_passed (inside : closes block.indent row = false) (number : Nat) (rows : List Text) :
    scan sentinel (some block) number (row :: rows) =
      scan sentinel (some (block.pass row)) (number + 1) rows := by
  rw [scan, inside, if_neg Bool.false_ne_true]

end Steps

theorem scan_append (state : Option Block) (number : Nat) (rows more : List Text) :
    scan sentinel state number (rows ++ more) =
      (scan sentinel state number rows).and
        (scan sentinel (scan sentinel state number rows).unclosed (number + rows.length) more) := by
  induction rows generalizing state number with
  | nil => rfl
  | cons row rows ih =>
    have next : number + (row :: rows).length = number + 1 + rows.length := by
      rw [List.length_cons]
      omega
    rw [next, List.cons_append]
    cases state with
    | none =>
      by_cases opened : trim row = sentinel
      · rw [scan_opened opened, scan_opened opened, ih]
      · rw [scan_kept opened, scan_kept opened, ih, Scan.and_assoc]
        rfl
    | some block =>
      cases closed : closes block.indent row with
      | true =>
        rw [scan_closed closed, scan_closed closed, ih, Scan.and_assoc]
        rfl
      | false => rw [scan_passed closed, scan_passed closed, ih]

/-- Lines without a sentinel are kept outside of test blocks. -/
theorem scan_of_forall_ne (number : Nat) {rows : List Text}
    (clean : ∀ row ∈ rows, trim row ≠ sentinel) :
    scan sentinel none number rows = ⟨rows, [], none⟩ := by
  induction rows generalizing number with
  | nil => rfl
  | cons row rows ih =>
    rw [scan_kept (clean row List.mem_cons_self),
      ih (number + 1) (fun row member => clean row (List.mem_cons_of_mem _ member))]
    rfl

def Block.passAll (block : Block) (rows : List Text) : Block :=
  { block with items := block.items + rows.countP (startsItem block.indent) }

@[simp] theorem Block.passAll_indent (block : Block) (rows : List Text) :
    (block.passAll rows).indent = block.indent := rfl

theorem Block.passAll_cons (block : Block) (row : Text) (rows : List Text) :
    block.passAll (row :: rows) = (block.pass row).passAll rows := by
  rw [passAll, passAll, pass, List.countP_cons, Nat.add_comm (rows.countP _), Nat.add_assoc]

/-- Lines that do not close an open block are left out, and the items that start there counted. -/
theorem scan_of_forall_not_closes (number : Nat) {rows : List Text} (block : Block)
    (inside : ∀ row ∈ rows, closes block.indent row = false) :
    scan sentinel (some block) number rows = ⟨[], [], some (block.passAll rows)⟩ := by
  induction rows generalizing number block with
  | nil => rfl
  | cons row rows ih =>
    rw [scan_passed (inside row List.mem_cons_self), Block.passAll_cons]
    exact ih (number + 1) (block.pass row)
      (fun row member => inside row (List.mem_cons_of_mem _ member))

/-- Where an open block stands, and how many items it has, changes nothing of what is kept. -/
theorem scan_renumbered {other : Option Block}
    (same : state.map Block.indent = other.map Block.indent) (number renumbered : Nat)
    (rows : List Text) :
    (scan sentinel state number rows).kept = (scan sentinel other renumbered rows).kept ∧
      (scan sentinel state number rows).unclosed.map Block.indent =
        (scan sentinel other renumbered rows).unclosed.map Block.indent := by
  induction rows generalizing state other number renumbered with
  | nil => exact ⟨rfl, same⟩
  | cons row rows ih =>
    cases state with
    | none =>
      cases other with
      | some block => cases same
      | none =>
        by_cases opened : trim row = sentinel
        · rw [scan_opened opened, scan_opened opened]
          apply ih
          rfl
        · rw [scan_kept opened, scan_kept opened]
          obtain ⟨kept, unclosed⟩ := @ih none none rfl (number + 1) (renumbered + 1)
          exact ⟨congrArg (row :: ·) kept, unclosed⟩
    | some block =>
      cases other with
      | none => cases same
      | some another =>
        have level : block.indent = another.indent := Option.some.inj same
        cases closed : closes another.indent row with
        | true =>
          rw [scan_closed (level ▸ closed), scan_closed closed]
          exact @ih none none rfl (number + 1) (renumbered + 1)
        | false =>
          rw [scan_passed (level ▸ closed), scan_passed closed]
          apply ih
          exact same

/-- What is kept behind lines that end outside of test blocks is what would be kept without them. -/
theorem scan_behind {number : Nat} {rows : List Text}
    (outside : (scan sentinel none number rows).unclosed = none) (renumbered : Nat)
    (more : List Text) :
    (scan sentinel none number (rows ++ more)).kept =
        (scan sentinel none number rows).kept ++ (scan sentinel none renumbered more).kept ∧
      (scan sentinel none number (rows ++ more)).unclosed.map Block.indent =
        (scan sentinel none renumbered more).unclosed.map Block.indent := by
  obtain ⟨kept, unclosed⟩ := @scan_renumbered sentinel none none rfl (number + rows.length)
    renumbered more
  rw [scan_append, outside]
  exact ⟨congrArg (_ ++ ·) kept, unclosed⟩

/-! ## White space at the ends of lines -/

variable {left right : Text}

theorem closes_eq (same : SameEnd left right) (indent : Text) :
    closes indent left = closes indent right := by
  rw [closes, closes, same]

theorem startsItem_eq (same : SameEnd left right) (indent : Text) :
    startsItem indent left = startsItem indent right := by
  have code := same.trimStart
  dsimp only [startsItem]
  rw [same.isBlank_eq, code.isPrefixOf_eq ['}'] rfl, code.isPrefixOf_eq "#[".toList rfl,
    code.isPrefixOf_eq "//".toList rfl]
  cases blank : isBlank right with
  | true => rfl
  | false => rw [same.leading_eq (same.isBlank_eq.trans blank)]

theorem Block.pass_eq (same : SameEnd left right) (block : Block) :
    block.pass left = block.pass right := by
  rw [Block.pass, Block.pass, startsItem_eq same]

/-- Scans of lines with the same ends keep lines with the same ends and find the same else. -/
theorem scan_sameLine (state : Option Block) (number : Nat) {rows others : List Text}
    (some : sentinel ≠ []) (same : List.Forall₂ SameLine rows others) :
    List.Forall₂ SameLine (scan sentinel state number rows).kept
        (scan sentinel state number others).kept ∧
      (scan sentinel state number rows).warnings = (scan sentinel state number others).warnings ∧
      (scan sentinel state number rows).unclosed =
        (scan sentinel state number others).unclosed := by
  induction same generalizing state number with
  | nil => exact ⟨.nil, rfl, rfl⟩
  | @cons line other rest others here _ ih =>
    cases state with
    | none =>
      unfold scan
      rw [here.ends.trim_eq]
      split
      · next opened =>
        have content : isBlank line = false := by
          cases blank : isBlank line with
          | false => rfl
          | true =>
            rw [← here.ends.trim_eq, trim_of_isBlank blank] at opened
            exact absurd opened.symm some
        rw [here.ends.leading_eq content]
        exact ih _ _
      · obtain ⟨kept, warnings, unclosed⟩ := ih none (number + 1)
        exact ⟨.cons here kept, warnings, unclosed⟩
    | some block =>
      unfold scan
      rw [closes_eq here.ends, block.pass_eq here.ends]
      split
      · obtain ⟨kept, warnings, unclosed⟩ := ih none (number + 1)
        exact ⟨kept, congrArg (block.warnings sentinel ++ ·) warnings, unclosed⟩
      · exact ih _ _

end ParserRefresh.Tests
