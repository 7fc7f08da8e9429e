import ParserRefresh.Modules.Inline
import ParserRefresh.Proofs.DeclarationGrammar
import ParserRefresh.Proofs.Lines
import ParserRefresh.Proofs.Outcomes

/-! # What inlining leaves

A line is plain when it declares no module. Inlining a file leaves plain lines only, provided that
a level of modules is indented by spaces and tabs: the lines of the file that declare nothing stay
so under any indentation, and none of the lines that are written around the text of a module ends
in a semicolon. -/

namespace ParserRefresh.Modules

open Text Declaration

/-- A line on which no module is declared. -/
def IsPlain (row : Text) : Prop := IsLine row ∧ ∀ number, parse? row number = none

theorem isPlain_nil : IsPlain [] := by
  constructor
  · exact isLine_nil
  · intro number
    cases found : parse? [] number with
    | none => rfl
    | some declaration =>
      have last := getLast?_trimEnd_of_parse? found
      cases last

theorem isPlain_of_isSome {row : Text} (number : Nat) (line : IsLine row)
    (none : (parse? row number).isSome = false) : IsPlain row := by
  constructor
  · exact line
  · intro other
    rw [isSome_parse? row number, ← isSome_parse? row other] at none
    exact Option.isNone_iff_eq_none.mp (by simpa using none)

/-- A line is plain when it ends in something else than a semicolon. -/
theorem isPlain_append_singleton {row : Text} {c : Char} (line : IsLine (row ++ [c]))
    (content : isSpace c = false) (other : c ≠ ';') : IsPlain (row ++ [c]) := by
  constructor
  · exact line
  · intro number
    cases found : parse? (row ++ [c]) number with
    | none => rfl
    | some declaration =>
      have last := getLast?_trimEnd_of_parse? found
      have kept : trimEnd (row ++ [c]) = row ++ [c] := by
        rw [trimEnd_append, isBlank_cons, content, if_neg (by simp), trimEnd_cons, content]
        rfl
      rw [kept, List.getLast?_append, List.getLast?_singleton] at last
      exact absurd (Option.some.inj last) other

theorem IsPlain.indentLine {indent row : Text} (spaces : ∀ c ∈ indent, isIndent c = true)
    (plain : IsPlain row) : IsPlain (indentLine indent row) := by
  unfold Text.indentLine
  split
  · exact isPlain_nil
  · have start : IsLine indent := fun inside => by cases spaces _ inside
    apply isPlain_of_isSome 0 (start.append plain.1)
    rw [isSome_parse?_append spaces row 0 0, plain.2 0]
    rfl

/-! ## The lines around the text of a module -/

/-- The parts of a declaration are written with characters of its line. -/
theorem subset_of_parse? {line : Text} {number : Nat} {declaration : Declaration}
    (found : parse? line number = some declaration) :
    declaration.indent ⊆ line ∧ (∀ written ∈ declaration.attributes, written ⊆ line) ∧
      (∀ visibility ∈ declaration.visibility, visibility ⊆ line) ∧ declaration.name ⊆ line := by
  obtain ⟨spelling, rfl, rfl⟩ := parse?_eq_some_iff_spelling.mp found
  refine ⟨?_, ?_, ?_, ?_⟩
  · exact List.subset_append_left _ _
  · intro written member
    obtain ⟨entry, listed, rfl⟩ := List.mem_map.mp member
    intro c inside
    have there : c ∈ attributesText spelling.attributes :=
      List.mem_flatMap.mpr ⟨entry, listed, List.mem_append_left _ inside⟩
    simp [Spelling.text, there]
  · intro visibility member
    obtain ⟨entry, shown, rfl⟩ := Option.map_eq_some_iff.mp member
    intro c inside
    have there : c ∈ visibilityText spelling.visibility := by
      rw [shown, visibilityText, ← List.append_assoc]
      exact List.mem_append_left _ inside
    simp [Spelling.text, there]
  · intro c inside
    have there : c ∈ spelling.name := inside
    simp [Spelling.text, Spelling.nameText, there]

/-- An attribute starts with a hash and ends in a closing bracket. -/
theorem exists_attribute_of_parse? {line : Text} {number : Nat} {declaration : Declaration}
    (found : parse? line number = some declaration) {written : Text}
    (member : written ∈ declaration.attributes) :
    ∃ inner : Text, written = '#' :: '[' :: inner ++ [']'] := by
  obtain ⟨spelling, rfl, rfl⟩ := parse?_eq_some_iff_spelling.mp found
  obtain ⟨entry, listed, rfl⟩ := List.mem_map.mp member
  obtain ⟨⟨inner, -, written⟩, -⟩ := spelling.attributes_formed entry listed
  exact ⟨inner, written⟩

theorem isPlain_of_mem_attributeLines {line row : Text} {number : Nat} {declaration : Declaration}
    (found : parse? line number = some declaration) (single : IsLine line)
    (member : row ∈ declaration.attributeLines) : IsPlain row := by
  obtain ⟨indent, attributes, -, -⟩ := subset_of_parse? found
  obtain ⟨written, listed, rfl⟩ := List.mem_map.mp member
  have inLine : IsLine (declaration.indent ++ written) :=
    (single.of_subset indent).append (single.of_subset (attributes written listed))
  obtain ⟨front, rfl⟩ := exists_attribute_of_parse? found listed
  rw [← List.append_assoc] at inLine ⊢
  exact isPlain_append_singleton inLine (by decide) (by decide)

theorem isPlain_openingLine {line : Text} {number : Nat} {declaration : Declaration}
    (found : parse? line number = some declaration) (single : IsLine line) :
    IsPlain declaration.openingLine := by
  obtain ⟨indent, -, visible, name⟩ := subset_of_parse? found
  have plain : ∀ shown : Text, IsLine shown →
      IsPlain (declaration.indent ++ shown ++ "mod ".toList ++ declaration.name ++
        [' ', '\x7b']) := by
    intro shown line
    have whole : IsLine (declaration.indent ++ shown ++ "mod ".toList ++ declaration.name ++
        [' ', '\x7b']) :=
      ((((single.of_subset indent).append line).append (by decide)).append
        (single.of_subset name)).append (by decide)
    rw [← List.singleton_append, ← List.append_assoc] at whole ⊢
    exact isPlain_append_singleton whole (by decide) (by decide)
  unfold openingLine
  split
  · next visibility shown =>
    exact plain _ ((single.of_subset (visible visibility shown)).append (by decide))
  · exact plain [] isLine_nil

theorem isPlain_closingLine {line : Text} {number : Nat} {declaration : Declaration}
    (found : parse? line number = some declaration) (single : IsLine line) :
    IsPlain declaration.closingLine := by
  obtain ⟨indent, -, -, -⟩ := subset_of_parse? found
  exact isPlain_append_singleton ((single.of_subset indent).append (by decide)) (by decide)
    (by decide)

/-- The lines that replace a declaration are plain when those of the module are. -/
theorem isPlain_of_mem_block {line unit body row : Text} {number : Nat} {declaration : Declaration}
    (found : parse? line number = some declaration) (single : IsLine line)
    (spaces : ∀ c ∈ unit, isIndent c = true) (plain : ∀ row ∈ lines body, IsPlain row)
    (member : row ∈ block unit declaration body) : IsPlain row := by
  have indent : ∀ c ∈ declaration.indent ++ unit, isIndent c = true := by
    obtain ⟨spelling, -, rfl⟩ := parse?_eq_some_iff_spelling.mp found
    intro c inside
    rcases List.mem_append.mp inside with outer | inner
    · exact spelling.indent_spaces c outer
    · exact spaces c inner
  simp only [block, indentLines, List.mem_append, List.mem_cons, List.mem_map,
    List.not_mem_nil, or_false] at member
  rcases member with (above | rfl | ⟨inner, listed, rfl⟩) | rfl
  · exact isPlain_of_mem_attributeLines found single above
  · exact isPlain_openingLine found single
  · exact (plain inner listed).indentLine indent
  · exact isPlain_closingLine found single

/-! ## All lines of a file -/

/-- What becomes of one line and the lines after it. -/
theorem inlineLines_cons (files : FileSystem) (unit : Text) (way : List Path) (path : Path)
    (number : Nat) (line : Text) (rest : List Text) :
    inlineLines files unit way path number (line :: rest) =
      match parse? line number with
      | none => (inlineLines files unit way path (number + 1) rest).map (line :: ·)
      | some declaration =>
        match resolve files path.directory declaration.name path with
        | .error fault => .error fault
        | .ok file =>
          match files.readText file with
          | .error refusal => .error (Cause.file file refusal.message)
          | .ok (location, text) =>
            if onWay way (FileSystem.absolute location) then
              .error (Cause.moduleCycle (way ++ [FileSystem.absolute location]))
            else
              match inlineLines files unit (way ++ [FileSystem.absolute location]) file 1
                  (lines (trim text)) with
              | .error fault => .error fault
              | .ok body =>
                (inlineLines files unit way path (number + 1) rest).map
                  (block unit declaration (unlines body) ++ ·) := by
  rw [inlineLines]
  cases parse? line number with
  | none => rfl
  | some declaration =>
    dsimp only
    cases resolve files path.directory declaration.name path with
    | error fault => rfl
    | ok file =>
      dsimp only
      split
      · next read => rw [read]
      · next read => rw [read]; rfl

/-- What a line and the lines after it become when they are inlined. -/
theorem exists_of_inlineLines_cons {files : FileSystem} {unit : Text} {way : List Path}
    {path : Path} {number : Nat} {line : Text} {rest out : List Text}
    (done : inlineLines files unit way path number (line :: rest) = .ok out) :
    ∃ after, inlineLines files unit way path (number + 1) rest = .ok after ∧
      ((parse? line number = none ∧ out = line :: after) ∨
        ∃ declaration file location text body, parse? line number = some declaration ∧
          resolve files path.directory declaration.name path = .ok file ∧
          files.readText file = .ok (location, text) ∧
          onWay way (FileSystem.absolute location) = false ∧
          inlineLines files unit (way ++ [FileSystem.absolute location]) file 1
            (lines (trim text)) = .ok body ∧
          out = block unit declaration (unlines body) ++ after) := by
  rw [inlineLines_cons] at done
  split at done
  · next undeclared =>
    obtain ⟨after, inlined, rfl⟩ := map_eq_ok_iff.mp done
    exact ⟨after, inlined, .inl ⟨undeclared, rfl⟩⟩
  next declaration declared =>
  split at done
  · cases done
  next file found =>
  split at done
  · cases done
  next location text read =>
  split at done
  · cases done
  next new =>
  split at done
  · cases done
  next body inner =>
  obtain ⟨after, inlined, rfl⟩ := map_eq_ok_iff.mp done
  exact ⟨after, inlined, .inr ⟨declaration, file, location, text, body, declared, found, read,
    Bool.eq_false_iff.mpr new, inner, rfl⟩⟩

section Declared

variable {files : FileSystem} {unit : Text} {way : List Path} {path file : Path} {number : Nat}
  {line text : Text} {rest : List Text} {declaration : Declaration} {location : Location}

/-- What becomes of a declared module whose file can be read. -/
theorem inlineLines_of_readText (declared : parse? line number = some declaration)
    (found : resolve files path.directory declaration.name path = .ok file)
    (read : files.readText file = .ok (location, text)) :
    inlineLines files unit way path number (line :: rest) =
      if onWay way (FileSystem.absolute location) then
        .error (Cause.moduleCycle (way ++ [FileSystem.absolute location]))
      else
        match inlineLines files unit (way ++ [FileSystem.absolute location]) file 1
            (lines (trim text)) with
        | .error fault => .error fault
        | .ok body =>
          (inlineLines files unit way path (number + 1) rest).map
            (block unit declaration (unlines body) ++ ·) := by
  rw [inlineLines_cons, declared]
  dsimp only
  rw [found]
  dsimp only
  rw [read]

/-- A declared module that can be read and is not on the way is inlined in place. -/
theorem inlineLines_declared {body rows : List Text}
    (declared : parse? line number = some declaration)
    (found : resolve files path.directory declaration.name path = .ok file)
    (read : files.readText file = .ok (location, text))
    (new : onWay way (FileSystem.absolute location) = false)
    (inner : inlineLines files unit (way ++ [FileSystem.absolute location]) file 1
      (lines (trim text)) = .ok body)
    (after : inlineLines files unit way path (number + 1) rest = .ok rows) :
    inlineLines files unit way path number (line :: rest) =
      .ok (block unit declaration (unlines body) ++ rows) := by
  rw [inlineLines_of_readText declared found read, new, if_neg Bool.false_ne_true, inner, after]
  rfl

end Declared

/-- Lines that declare nothing stay as they are. -/
theorem inlineLines_of_undeclared {files : FileSystem} {unit : Text} {way : List Path} {path : Path}
    {number : Nat} {rows : List Text}
    (undeclared : rows.any (fun row => (parse? row 0).isSome) = false) :
    inlineLines files unit way path number rows = .ok rows := by
  induction rows generalizing number with
  | nil => rw [inlineLines]
  | cons line rest ih =>
    rw [List.any_cons, Bool.or_eq_false_iff] at undeclared
    have plain : parse? line number = none := by
      rw [← Option.not_isSome_iff_eq_none, isSome_parse?, ← isSome_parse? line 0, undeclared.1]
      exact Bool.false_ne_true
    rw [inlineLines_cons, plain, ih undeclared.2]
    rfl

/-- Inlining a file leaves plain lines only. -/
theorem isPlain_of_mem_inlineLines {files : FileSystem} {unit : Text} {way : List Path}
    {path : Path} {number : Nat} {rows out : List Text} (spaces : ∀ c ∈ unit, isIndent c = true)
    (single : ∀ row ∈ rows, IsLine row)
    (done : inlineLines files unit way path number rows = .ok out) : ∀ row ∈ out, IsPlain row := by
  fun_induction inlineLines files unit way path number rows generalizing out with
  | case1 =>
    cases done
    simp
  | case2 way path number line rest undeclared ih =>
    obtain ⟨later, inlined, rfl⟩ := map_eq_ok_iff.mp done
    intro row member
    rcases List.mem_cons.mp member with rfl | listed
    · apply isPlain_of_isSome number (single row List.mem_cons_self)
      rw [undeclared]
      rfl
    · exact ih (fun other inside => single other (List.mem_cons_of_mem _ inside)) inlined row listed
  | case3 => cases done
  | case4 => cases done
  | case5 => cases done
  | case6 => cases done
  | case7 way path number line rest declaration found file _ location text _ identity _ body inner
      ihBody =>
    rename_i ihRest
    obtain ⟨later, inlined, rfl⟩ := map_eq_ok_iff.mp done
    have plainBody : ∀ row ∈ lines (unlines body), IsPlain row := by
      have plain := ihBody (fun _ => isLine_of_mem_lines) inner
      rwa [forall_mem_lines_unlines isPlain_nil (fun row member => (plain row member).1)]
    intro row member
    rcases List.mem_append.mp member with here | listed
    · exact isPlain_of_mem_block found (single line List.mem_cons_self) spaces plainBody here
    · exact ihRest (fun other inside => single other (List.mem_cons_of_mem _ inside)) inlined row
        listed

end ParserRefresh.Modules
