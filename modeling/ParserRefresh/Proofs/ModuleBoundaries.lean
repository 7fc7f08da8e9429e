import ParserRefresh.Proofs.Indentation
import ParserRefresh.Proofs.SingleWalk
import ParserRefresh.Proofs.TestBlocks

/-! # Test blocks and module boundaries

Inlining puts the text of a module into a block of its own, one level further right. A test scan
of the indented text finds what it finds in the text of the module, further right and further down,
and none of the lines around the text opens or closes a test block of another level. So a module
that is inlined outside of test blocks is stripped as it would be alone, and one that is inlined
below a sentinel at its own indentation is removed as a whole. -/

namespace ParserRefresh.Tests

open Text

variable {sentinel indent : Text}

/-! ## Scans of indented lines -/

theorem closes_of_isBlank {row : Text} (indent : Text) (blank : isBlank row = true) :
    closes indent row = false := by
  rw [closes, trimEnd_eq_nil_iff.mpr blank]
  cases indent <;> rfl

theorem closes_append {row : Text} (indent inner : Text) (content : isBlank row = false) :
    closes (indent ++ inner) (indent ++ row) = closes inner row := by
  rw [closes, closes, trimEnd_append_of_content indent content, Bool.eq_iff_iff, beq_iff_eq,
    beq_iff_eq, List.append_assoc]
  exact List.append_right_inj indent

theorem closes_indentLine (indent inner row : Text) :
    closes (indent ++ inner) (indentLine indent row) = closes inner row := by
  unfold indentLine
  cases blank : isBlank row with
  | true => rw [if_pos rfl, closes_of_isBlank _ isBlank_nil, closes_of_isBlank _ blank]
  | false => rw [if_neg Bool.false_ne_true, closes_append _ _ blank]

theorem startsItem_indentLine (spaces : ∀ c ∈ indent, isIndent c = true) (inner row : Text) :
    startsItem (indent ++ inner) (indentLine indent row) = startsItem inner row := by
  unfold indentLine
  cases blank : isBlank row with
  | true => rw [if_pos rfl, startsItem, startsItem, blank]; rfl
  | false =>
    have same : (indent ++ leading row == indent ++ inner) = (leading row == inner) := by
      rw [Bool.eq_iff_iff, beq_iff_eq, beq_iff_eq]
      exact List.append_right_inj indent
    rw [if_neg Bool.false_ne_true, startsItem, startsItem, isBlank_append, blank, Bool.and_false,
      leading_append spaces, trimStart_append_of_isBlank (isBlank_of_isIndent spaces), same]

/-- A block whose lines stand behind `indent` and further down. -/
def Block.move (indent : Text) (down : Nat) (block : Block) : Block :=
  ⟨indent ++ block.indent, block.openedAt + down, block.items⟩

theorem Block.pass_move (spaces : ∀ c ∈ indent, isIndent c = true) (down : Nat) (block : Block)
    (row : Text) :
    (block.move indent down).pass (indentLine indent row) = (block.pass row).move indent down := by
  rw [Block.pass, Block.move, startsItem_indentLine spaces]
  rfl

def moveWarning (down : Nat) : Warning → Warning
  | .rawTerminator => .rawTerminator
  | .manyItems sentinel line items => .manyItems sentinel (line + down) items

theorem Block.warnings_move (indent : Text) (down : Nat) (block : Block) :
    (block.move indent down).warnings sentinel =
      (block.warnings sentinel).map (moveWarning down) := by
  unfold Block.warnings Block.move
  split <;> rfl

/-- What a scan finds when all lines stand behind `indent` and further down. -/
def Scan.move (indent : Text) (down : Nat) (found : Scan) : Scan :=
  ⟨indentLines indent found.kept, found.warnings.map (moveWarning down),
    found.unclosed.map (Block.move indent down)⟩

/-- To scan indented lines is to scan the lines. -/
theorem scan_indentLines (spaces : ∀ c ∈ indent, isIndent c = true) (marked : sentinel ≠ [])
    (state : Option Block) (number down : Nat) (rows : List Text) :
    scan sentinel (state.map (Block.move indent down)) (number + down) (indentLines indent rows) =
      (scan sentinel state number rows).move indent down := by
  have blank := isBlank_of_isIndent spaces
  induction rows generalizing state number with
  | nil => rfl
  | cons row rows ih =>
    have next : number + down + 1 = number + 1 + down := by omega
    rw [indentLines, List.map_cons, ← indentLines]
    cases state with
    | none =>
      rw [Option.map_none]
      by_cases opened : trim row = sentinel
      · have content : isBlank row = false := by
          cases empty : isBlank row with
          | false => rfl
          | true => exact absurd (opened.symm.trans (trim_of_isBlank empty)) marked
        have deeper : leading (indentLine indent row) = indent ++ leading row := by
          rw [indentLine, content, if_neg Bool.false_ne_true, leading_append spaces]
        have later := ih (some ⟨leading row, number, 0⟩) (number + 1)
        rw [scan_opened ((trim_indentLine blank row).trans opened), scan_opened opened, deeper,
          next, ← later]
        rfl
      · have later := ih none (number + 1)
        rw [Option.map_none] at later
        rw [scan_kept (fun same => opened ((trim_indentLine blank row).symm.trans same)),
          scan_kept opened, next, later]
        rfl
    | some block =>
      rw [Option.map_some]
      cases closed : closes block.indent row with
      | true =>
        have later := ih none (number + 1)
        rw [Option.map_none] at later
        rw [scan_closed ((closes_indentLine indent block.indent row).trans closed),
          scan_closed closed, next, later, Block.warnings_move, Scan.and, Scan.and, Scan.move,
          Scan.move, List.map_append]
        rfl
      | false =>
        have later := ih (some (block.pass row)) (number + 1)
        rw [scan_passed ((closes_indentLine indent block.indent row).trans closed),
          scan_passed closed, Block.pass_move spaces, next, ← later]
        rfl

/-! ## The end of a scan -/

/-- What stripping ends with when a scan has kept some lines and may have left a block open. -/
def outcome (sentinel : Text) (kept : List Text) : Option Block → Except Fault Text
  | none => .ok (unlines kept)
  | some block =>
    .error (Cause.missingMarker (block.indent ++ ['}']) (neverClosed sentinel block.openedAt))

theorem result_strip (sentinel text : Text) :
    (strip sentinel text).result =
      outcome sentinel (scan sentinel none 1 (lines text)).kept
        (scan sentinel none 1 (lines text)).unclosed := by
  dsimp only [strip]
  split
  · next closed => rw [closed]; rfl
  · next block unclosed => rw [unclosed]; rfl

/-- Stripping comes out of the lines `start` with the lines `kept`, outside of test blocks, and ends
as a scan of the lines `rest` behind them does: with what this scan keeps, or with its fault. -/
structure GoesOn (sentinel : Text) (start kept rest : List Text) (result : Except Fault Text) :
    Prop where
  kept_eq : (scan sentinel none 1 start).kept = kept
  outside : (scan sentinel none 1 start).unclosed = none
  result_eq : result =
    outcome sentinel (kept ++ (scan sentinel none (start.length + 1) rest).kept)
      (scan sentinel none (start.length + 1) rest).unclosed

theorem goesOn_of_scan {text : Text} {start kept rest : List Text} {warnings : List Warning}
    (whole : lines text = start ++ rest)
    (scanned : scan sentinel none 1 start = ⟨kept, warnings, none⟩) :
    GoesOn sentinel start kept rest (strip sentinel text).result := by
  refine ⟨by rw [scanned], by rw [scanned], ?_⟩
  rw [result_strip, whole, scan_append, scanned, Nat.add_comm 1]
  rfl

end ParserRefresh.Tests

namespace ParserRefresh.Modules

open Text Declaration Tests

variable {files : FileSystem} {unit : Text} {way : List Path} {path : Path} {number : Nat}
  {sentinel line : Text} {declaration : Declaration}

/-! ## Inlining in parts -/

/-- The number of a line is noted in its declaration and nowhere else. -/
theorem inlineLines_renumbered (files : FileSystem) (unit : Text) (way : List Path) (path : Path)
    (number renumbered : Nat) (rows : List Text) :
    inlineLines files unit way path number rows =
      inlineLines files unit way path renumbered rows := by
  induction rows generalizing number renumbered with
  | nil => rw [inlineLines, inlineLines]
  | cons line rest ih =>
    rw [inlineLines_cons, inlineLines_cons, ih (number + 1) (renumbered + 1)]
    cases declared : parse? line number with
    | none =>
      have again : parse? line renumbered = none := by
        rw [← Option.not_isSome_iff_eq_none, isSome_parse?, ← isSome_parse? line number, declared]
        exact Bool.false_ne_true
      rw [again]
    | some declaration =>
      obtain ⟨spelling, written, rfl⟩ := parse?_eq_some_iff_spelling.mp declared
      have again : parse? line renumbered = some (spelling.declaration renumbered) :=
        parse?_eq_some_iff_spelling.mpr ⟨spelling, written, rfl⟩
      rw [again]
      rfl

theorem exists_of_inlineLines_append {rows more out : List Text}
    (done : inlineLines files unit way path number (rows ++ more) = .ok out) :
    ∃ before after, inlineLines files unit way path number rows = .ok before ∧
      inlineLines files unit way path (number + rows.length) more = .ok after ∧
      out = before ++ after := by
  induction rows generalizing number out with
  | nil => exact ⟨[], out, by rw [inlineLines], done, rfl⟩
  | cons line rest ih =>
    obtain ⟨behind, remaining, here⟩ := exists_of_inlineLines_cons done
    obtain ⟨before, after, inlined, others, rfl⟩ := ih remaining
    have next : number + (line :: rest).length = number + 1 + rest.length := by
      rw [List.length_cons]
      omega
    rw [next]
    rcases here with ⟨undeclared, rfl⟩ |
      ⟨declaration, file, location, text, body, declared, found, read, new, inner, rfl⟩
    · refine ⟨line :: before, after, ?_, others, rfl⟩
      rw [inlineLines_cons, undeclared, inlined]
      rfl
    · refine ⟨block unit declaration (unlines body) ++ before, after, ?_, others, ?_⟩
      · exact inlineLines_declared declared found read new inner inlined
      · rw [List.append_assoc]

/-- Lines that are inlined on their own are inlined together. -/
theorem inlineLines_append {renumbered : Nat} {rows more before after : List Text}
    (first : inlineLines files unit way path number rows = .ok before)
    (last : inlineLines files unit way path renumbered more = .ok after) :
    inlineLines files unit way path number (rows ++ more) = .ok (before ++ after) := by
  induction rows generalizing number before with
  | nil =>
    rw [inlineLines] at first
    cases first
    rw [List.nil_append, inlineLines_renumbered files unit way path number renumbered]
    exact last
  | cons line rest ih =>
    obtain ⟨behind, remaining, here⟩ := exists_of_inlineLines_cons first
    have together := ih remaining
    rcases here with ⟨undeclared, rfl⟩ |
      ⟨declaration, file, location, text, body, declared, found, read, new, inner, rfl⟩
    · rw [List.cons_append, inlineLines_cons, undeclared, together]
      rfl
    · rw [List.cons_append, List.append_assoc]
      exact inlineLines_declared declared found read new inner together

/-- The text of a declared module, itself inlined, when the declaring file lies at the end of a
way. -/
def Expands (files : FileSystem) (unit : Text) (way : List Path) (path : Path)
    (declaration : Declaration) (body : Text) : Prop :=
  ∃ file location text rows, resolve files path.directory declaration.name path = .ok file ∧
    files.readText file = .ok (location, text) ∧
    inlineLines files unit (way ++ [FileSystem.absolute location]) file 1 (lines (trim text)) =
      .ok rows ∧
    body = unlines rows

def wrap (unit : Text) (declaration : Declaration) (rows : List Text) : List Text :=
  declaration.attributeLines ++ declaration.openingLine ::
    indentLines (declaration.indent ++ unit) rows ++ [declaration.closingLine]

theorem block_eq_wrap (unit : Text) (declaration : Declaration) (body : Text) :
    block unit declaration body = wrap unit declaration (lines body) := rfl

/-- A text that is inlined can be cut at any of its declarations: the lines above and below are
inlined on their own, and the declaration is replaced by the block of its module. -/
theorem exists_parts_of_inline {text out : Text} {above below : List Text} (unitLine : IsLine unit)
    (inlined : inline files unit path text = .ok out) (cut : lines text = above ++ line :: below)
    (declared : parse? line (above.length + 1) = some declaration) :
    ∃ before body after,
      inlineLines files unit [files.identity path] path 1 above = .ok before ∧
      Expands files unit [files.identity path] path declaration body ∧
      inlineLines files unit [files.identity path] path 1 below = .ok after ∧
      lines out = before ++ block unit declaration body ++ after := by
  obtain ⟨rows, done, rfl⟩ := map_eq_ok_iff.mp inlined
  have lined := inlineLines_isLine unitLine (fun _ => isLine_of_mem_lines) done
  rw [cut] at done
  obtain ⟨before, behind, first, rest, rfl⟩ := exists_of_inlineLines_append done
  obtain ⟨after, last, here⟩ := exists_of_inlineLines_cons rest
  rw [Nat.add_comm 1] at here
  rw [inlineLines_renumbered files unit _ path _ 1] at last
  rcases here with ⟨undeclared, -⟩ |
    ⟨other, file, location, inner, body, again, found, read, -, below', rfl⟩
  · rw [declared] at undeclared
    cases undeclared
  · cases declared.symm.trans again
    refine ⟨before, unlines body, after, first, ⟨file, location, inner, body, found, read, below',
      rfl⟩, last, ?_⟩
    rw [lines_unlines (lined.2 (lines_ne_nil _)) lined.1, List.append_assoc]

/-! ## The lines around a module -/

theorem indent_spaces_of_parse? (declared : parse? line number = some declaration) :
    ∀ c ∈ declaration.indent, isIndent c = true := by
  obtain ⟨spelling, -, rfl⟩ := parse?_eq_some_iff_spelling.mp declared
  exact spelling.indent_spaces

theorem trim_attributeLine (declared : parse? line number = some declaration) {written : Text}
    (member : written ∈ declaration.attributes) :
    trim (declaration.indent ++ written) = written := by
  have blank := isBlank_of_isIndent (indent_spaces_of_parse? declared)
  obtain ⟨spelling, rfl, rfl⟩ := parse?_eq_some_iff_spelling.mp declared
  obtain ⟨entry, listed, rfl⟩ := List.mem_map.mp member
  obtain ⟨⟨inner, -, whole⟩, -⟩ := spelling.attributes_formed entry listed
  have bracket : isBlank [']'] = false := by decide
  have ends : trimEnd entry.1 = entry.1 := by
    rw [whole, ← List.cons_append, ← List.cons_append, trimEnd_append_of_content _ bracket]
    rfl
  have starts : trimStart entry.1 = entry.1 := by
    rw [whole]
    rfl
  rw [trim_append_of_isBlank blank, trim, starts, ends]

/-- A line that ends in another character than a closing brace closes nothing. -/
theorem closes_append_singleton {c : Char} (content : isSpace c = false) (other : c ≠ '}')
    (indent row : Text) : closes indent (row ++ [c]) = false := by
  have single : isBlank [c] = false := by rw [isBlank_cons, content]; rfl
  have ends : trimEnd [c] = [c] := by
    rw [trimEnd_cons, content]
    rfl
  rw [closes, trimEnd_append_of_content row single, ends, beq_eq_false_iff_ne]
  intro same
  exact other (List.singleton_inj.mp (List.append_inj_right' same rfl))

theorem closes_attributeLine (declared : parse? line number = some declaration) {row : Text}
    (member : row ∈ declaration.attributeLines) (indent : Text) : closes indent row = false := by
  obtain ⟨written, listed, rfl⟩ := List.mem_map.mp member
  obtain ⟨front, rfl⟩ := exists_attribute_of_parse? declared listed
  rw [← List.append_assoc]
  exact closes_append_singleton (by decide) (by decide) indent _

theorem closes_openingLine (declaration : Declaration) (indent : Text) :
    closes indent declaration.openingLine = false := by
  have brace : " \x7b".toList = [' '] ++ ['\x7b'] := by decide
  rw [openingLine, brace, ← List.append_assoc]
  exact closes_append_singleton (by decide) (by decide) indent _

theorem closes_closingLine (declaration : Declaration) :
    closes declaration.indent declaration.closingLine = true := by
  have brace : isBlank ['}'] = false := by decide
  rw [closes, closingLine, trimEnd_append_of_content _ brace]
  exact beq_iff_eq.mpr rfl

/-- A line that stands further right than a sentinel does not close its block. -/
theorem closes_deeper {level : Text} (spaces : ∀ c ∈ level, isIndent c = true)
    (further : level ≠ []) (indent row : Text) :
    closes indent (indentLine (indent ++ level) row) = false := by
  unfold indentLine
  cases blank : isBlank row with
  | true => rw [if_pos rfl, closes_of_isBlank _ isBlank_nil]
  | false =>
    obtain ⟨c, rest, rfl⟩ := List.exists_cons_of_ne_nil further
    rw [if_neg Bool.false_ne_true, closes, trimEnd_append_of_content _ blank, List.append_assoc,
      beq_eq_false_iff_ne]
    intro same
    have first := (List.cons.inj (List.append_cancel_left same)).1
    have space := spaces c List.mem_cons_self
    rw [first] at space
    cases space

/-! ## Scans of a module -/

/-- A module outside of test blocks is scanned as it would be alone. -/
theorem scan_block_outside (declared : parse? line number = some declaration)
    (spaces : ∀ c ∈ unit, isIndent c = true) (marked : sentinel ≠ [])
    (attributes : sentinel ∉ declaration.attributes)
    (opening : trim declaration.openingLine ≠ sentinel)
    (closing : trim declaration.closingLine ≠ sentinel) {body : Text}
    (closed : (scan sentinel none 1 (lines body)).unclosed = none) (number : Nat) :
    ∃ warnings, scan sentinel none number (block unit declaration body) =
      ⟨wrap unit declaration (scan sentinel none 1 (lines body)).kept, warnings, none⟩ := by
  have indent : ∀ c ∈ declaration.indent ++ unit, isIndent c = true := by
    intro c inside
    rcases List.mem_append.mp inside with outer | inner
    · exact indent_spaces_of_parse? declared c outer
    · exact spaces c inner
  have above : ∀ row ∈ declaration.attributeLines ++ [declaration.openingLine],
      trim row ≠ sentinel := by
    intro row member
    rcases List.mem_append.mp member with first | last
    · obtain ⟨written, listed, rfl⟩ := List.mem_map.mp first
      rw [trim_attributeLine declared listed]
      exact fun same => attributes (same ▸ listed)
    · rw [List.mem_singleton.mp last]
      exact opening
  have below : ∀ row ∈ [declaration.closingLine], trim row ≠ sentinel := by
    intro row member
    rw [List.mem_singleton.mp member]
    exact closing
  have cut : block unit declaration body =
      (declaration.attributeLines ++ [declaration.openingLine]) ++
        (indentLines (declaration.indent ++ unit) (lines body) ++ [declaration.closingLine]) := by
    simp [block_eq_wrap, wrap]
  obtain ⟨down, place⟩ : ∃ down,
      number + (declaration.attributeLines ++ [declaration.openingLine]).length = 1 + down := by
    refine ⟨number + declaration.attributeLines.length, ?_⟩
    rw [List.length_append, List.length_singleton]
    omega
  have inner := scan_indentLines indent marked none 1 down (lines body)
  rw [Option.map_none] at inner
  rw [cut, scan_append, scan_of_forall_ne _ above, scan_append, place, inner, Scan.move, closed]
  dsimp only [Option.map_none]
  rw [scan_of_forall_ne _ below]
  refine ⟨(scan sentinel none 1 (lines body)).warnings.map (moveWarning down), ?_⟩
  simp only [Scan.and, wrap, List.append_assoc, List.cons_append, List.nil_append, List.append_nil]

/-- Of the lines of a module only the last one closes a test block at its indentation. -/
theorem closes_above_closingLine (declared : parse? line number = some declaration)
    (spaces : ∀ c ∈ unit, isIndent c = true) (level : unit ≠ []) (body : List Text) :
    ∀ row ∈ declaration.attributeLines ++ declaration.openingLine ::
      indentLines (declaration.indent ++ unit) body, closes declaration.indent row = false := by
  intro row member
  simp only [indentLines, List.mem_append, List.mem_cons, List.mem_map] at member
  rcases member with above | rfl | ⟨inner, -, rfl⟩
  · exact closes_attributeLine declared above _
  · exact closes_openingLine declaration _
  · exact closes_deeper spaces level _ inner

/-- A module that is declared in an open test block, at the indentation of its sentinel, is removed
with the block, which ends with it. -/
theorem scan_block_inside (declared : parse? line number = some declaration)
    (spaces : ∀ c ∈ unit, isIndent c = true) (level : unit ≠ []) {block : Tests.Block}
    (here : block.indent = declaration.indent) (body : Text) (number : Nat) :
    ∃ warnings, scan sentinel (some block) number (Modules.block unit declaration body) =
      ⟨[], warnings, none⟩ := by
  have inside := closes_above_closingLine declared spaces level (lines body)
  rw [← here] at inside
  have ended (rows : List Text) :
      closes (block.passAll rows).indent declaration.closingLine = true := by
    rw [Block.passAll_indent, here]
    exact closes_closingLine declaration
  rw [Modules.block, scan_append, ← here, scan_of_forall_not_closes number block inside]
  dsimp only
  rw [scan_closed (ended _)]
  exact ⟨_, rfl⟩

/-! ## Modules in a text -/

/-- Stripping the test blocks of an inlined text respects the boundaries of its modules. Where the
lines above a declaration end outside of test blocks, the lines that stay are those of the lines
above, those of the module by itself, wrapped and indented, and those of the lines below. Where they
end inside a block opened at the indentation of the declaration, nothing stays of the module, and
the block ends with it. -/
theorem strip_inline_goesOn {text out : Text} {above below : List Text}
    (spaces : ∀ c ∈ unit, isIndent c = true) (level : unit ≠ []) (marked : sentinel ≠ [])
    (inlined : inline files unit path text = .ok out) (cut : lines text = above ++ line :: below)
    (declared : parse? line (above.length + 1) = some declaration)
    (opening : trim declaration.openingLine ≠ sentinel)
    (closing : trim declaration.closingLine ≠ sentinel) :
    ∃ before body after,
      inlineLines files unit [files.identity path] path 1 above = .ok before ∧
      Expands files unit [files.identity path] path declaration body ∧
      inlineLines files unit [files.identity path] path 1 below = .ok after ∧
      lines out = before ++ block unit declaration body ++ after ∧
      ((scan sentinel none 1 before).unclosed = none → sentinel ∉ declaration.attributes →
        (scan sentinel none 1 (lines body)).unclosed = none →
          GoesOn sentinel (before ++ block unit declaration body)
            ((scan sentinel none 1 before).kept ++
              wrap unit declaration (scan sentinel none 1 (lines body)).kept)
            after (strip sentinel out).result) ∧
      ∀ pending, (scan sentinel none 1 before).unclosed = some pending →
        pending.indent = declaration.indent →
          GoesOn sentinel (before ++ block unit declaration body)
            (scan sentinel none 1 before).kept after (strip sentinel out).result := by
  have unitLine : IsLine unit := fun inside => by cases spaces _ inside
  obtain ⟨before, body, after, first, expands, last, whole⟩ :=
    exists_parts_of_inline unitLine inlined cut declared
  refine ⟨before, body, after, first, expands, last, whole, ?_, ?_⟩
  · intro outside attributes closed
    obtain ⟨warnings, scanned⟩ := scan_block_outside declared spaces marked attributes opening
      closing closed (1 + before.length)
    have found : scan sentinel none 1 (before ++ block unit declaration body) =
        ⟨(scan sentinel none 1 before).kept ++
          wrap unit declaration (scan sentinel none 1 (lines body)).kept,
          (scan sentinel none 1 before).warnings ++ warnings, none⟩ := by
      rw [scan_append, outside, scanned]
      rfl
    exact goesOn_of_scan whole found
  · intro pending unclosed here
    obtain ⟨warnings, scanned⟩ :=
      scan_block_inside declared spaces level here body (1 + before.length)
    have found : scan sentinel none 1 (before ++ block unit declaration body) =
        ⟨(scan sentinel none 1 before).kept,
          (scan sentinel none 1 before).warnings ++ warnings, none⟩ := by
      rw [scan_append, unclosed, scanned, Scan.and, List.append_nil]
    exact goesOn_of_scan whole found

/-- Two modules, of which the first has a test block. -/
def tested : FileSystem where
  entries :=
    [(["a.rs".toList], .file (.text "fn a();\n#[test]\nmod t \x7b\n\x7d\n".toList) false),
     (["b.rs".toList], .file (.text "fn b();\n\x7d\n".toList) false)]
  workingDirectory := []

theorem expands_tested {way : List Path} {body : Text}
    (expands : Expands tested "  ".toList way ⟨"parser.rs".toList⟩ ⟨[], [], none, ['a'], 1⟩ body) :
    body = "fn a();\n#[test]\nmod t \x7b\n\x7d".toList := by
  obtain ⟨file, location, text, rows, found, read, inner, rfl⟩ := expands
  have only : resolve tested (Path.directory ⟨"parser.rs".toList⟩) ['a'] ⟨"parser.rs".toList⟩ =
      .ok ⟨"a.rs".toList⟩ := by decide +kernel
  cases only.symm.trans found
  have content : tested.readText ⟨"a.rs".toList⟩ =
      .ok (["a.rs".toList], "fn a();\n#[test]\nmod t \x7b\n\x7d\n".toList) := by decide +kernel
  cases content.symm.trans read
  rw [inlineLines_of_undeclared] at inner
  · cases inner
    rfl
  · decide +kernel

theorem strip_inline_goesOn_tested :
    (∃ out after, inline tested "  ".toList ⟨"parser.rs".toList⟩
        "mod a;\n#[test]\nmod b;\nfn c();".toList = .ok out ∧
      GoesOn "#[test]".toList
        (["mod a \x7b", "  fn a();", "  #[test]", "  mod t \x7b", "  \x7d", "\x7d"].map
          String.toList)
        (["mod a \x7b", "  fn a();", "\x7d"].map String.toList) after
        (strip "#[test]".toList out).result) ∧
    ∃ out body after, inline tested "  ".toList ⟨"parser.rs".toList⟩
        "#[test]\nmod b;\nfn c();".toList = .ok out ∧
      GoesOn "#[test]".toList
        ("#[test]".toList :: block "  ".toList ⟨[], [], none, ['b'], 2⟩ body) [] after
        (strip "#[test]".toList out).result := by
  have first : inline tested "  ".toList ⟨"parser.rs".toList⟩
      "mod a;\n#[test]\nmod b;\nfn c();".toList =
      .ok ("mod a \x7b\n  fn a();\n  #[test]\n  mod t \x7b\n  \x7d\n\x7d\n".toList ++
        "#[test]\nmod b \x7b\n  fn b();\n  \x7d\n\x7d\nfn c();".toList) := by
    decide +kernel
  have second : inline tested "  ".toList ⟨"parser.rs".toList⟩ "#[test]\nmod b;\nfn c();".toList =
      .ok "#[test]\nmod b \x7b\n  fn b();\n  \x7d\n\x7d\nfn c();".toList := by
    decide +kernel
  have cutOutside : lines "mod a;\n#[test]\nmod b;\nfn c();".toList =
      [] ++ "mod a;".toList :: ["#[test]".toList, "mod b;".toList, "fn c();".toList] := by decide
  have cutInside : lines "#[test]\nmod b;\nfn c();".toList =
      ["#[test]".toList] ++ "mod b;".toList :: ["fn c();".toList] := by decide
  have outer : parse? "mod a;".toList 1 = some ⟨[], [], none, ['a'], 1⟩ := by decide +kernel
  have inner : parse? "mod b;".toList 2 = some ⟨[], [], none, ['b'], 2⟩ := by decide +kernel
  have spaces : ∀ c ∈ "  ".toList, isIndent c = true := by simp [isIndent]
  have marked : "#[test]".toList ≠ [] := by decide
  constructor
  · obtain ⟨before, body, after, above, expands, -, -, outside, -⟩ :=
      strip_inline_goesOn spaces (by decide) marked first cutOutside outer (by decide) (by decide)
    rw [inlineLines] at above
    cases above
    cases expands_tested expands
    exact ⟨_, after, first, outside rfl (by decide) (by decide)⟩
  · obtain ⟨before, body, after, above, -, -, -, -, inside⟩ :=
      strip_inline_goesOn spaces (by decide) marked second cutInside inner (by decide) (by decide)
    rw [inlineLines_of_undeclared] at above
    · cases above
      exact ⟨_, body, after, second, inside ⟨[], 1, 0⟩ (by decide) rfl⟩
    · decide +kernel

end ParserRefresh.Modules
