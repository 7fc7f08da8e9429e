import ParserRefresh.Proofs.Nesting

/-! # Inlining as one walk

A walk goes through the files of a tree depth first and takes declarations in the order of their
lines. It carries the indentations of the declarations that lead to the file at hand, puts every
line where it belongs at once, and goes on behind a fault. Inlining, which indents the text of a
module once for each level around it, gives the lines of the walk or the first fault met there. -/

namespace ParserRefresh.Modules

open Text Declaration

/-! ## The walk -/

/-- A line of a file behind the indentations of the declarations that lead to the file. No
declaration leads to the root, whose lines stay as they are; a blank line of any other file is
emptied. -/
def place (indents : List Text) (row : Text) : Text :=
  if indents = [] then row else indentLine indents.flatten row

/-- What a walk meets in the lines of the file at `path` from the one with the given number on. -/
def tour (files : FileSystem) (indentUnit : Text) (way : List Path) (indents : List Text)
    (path : Path) (number : Nat) (rows : List Text) : List (Except Fault Text) :=
  match rows with
  | [] => []
  | line :: rest =>
    let later := tour files indentUnit way indents path (number + 1) rest
    match parse? line number with
    | none => .ok (place indents line) :: later
    | some declaration =>
      match resolve files path.directory declaration.name path with
      | .error fault => .error fault :: later
      | .ok file =>
        match _read : files.readText file with
        | .error refusal => .error (Cause.file file refusal.message) :: later
        | .ok (location, text) =>
          let identity := FileSystem.absolute location
          if _cycle : onWay way identity then
            .error (Cause.moduleCycle (way ++ [identity])) :: later
          else
            let above := declaration.attributeLines ++ [declaration.openingLine]
            let body := tour files indentUnit (way ++ [identity])
              (indents ++ [declaration.indent ++ indentUnit]) file 1 (lines (trim text))
            (above.map (indents.flatten ++ ·)).map .ok ++ body ++
              .ok (indents.flatten ++ declaration.closingLine) :: later
termination_by ((unvisited files way).length, rows.length)
decreasing_by
  · exact Prod.Lex.right _ (Nat.lt_succ_self _)
  · exact Prod.Lex.left _ _ (unvisited_lt (FileSystem.mem_regularFiles_of_readText _read)
      (Bool.eq_false_iff.mpr _cycle))

/-- What a walk meets in a tree, from a text on that was read from `path`. -/
def walk (files : FileSystem) (indentUnit : Text) (path : Path) (text : Text) :
    List (Except Fault Text) :=
  tour files indentUnit [files.identity path] [] path 1 (lines text)

/-- What a walk meets on one line and the lines after it. -/
theorem tour_cons (files : FileSystem) (unit : Text) (way : List Path) (indents : List Text)
    (path : Path) (number : Nat) (line : Text) (rest : List Text) :
    tour files unit way indents path number (line :: rest) =
      match parse? line number with
      | none => .ok (place indents line) :: tour files unit way indents path (number + 1) rest
      | some declaration =>
        match resolve files path.directory declaration.name path with
        | .error fault => .error fault :: tour files unit way indents path (number + 1) rest
        | .ok file =>
          match files.readText file with
          | .error refusal =>
            .error (Cause.file file refusal.message) ::
              tour files unit way indents path (number + 1) rest
          | .ok (location, text) =>
            if onWay way (FileSystem.absolute location) then
              .error (Cause.moduleCycle (way ++ [FileSystem.absolute location])) ::
                tour files unit way indents path (number + 1) rest
            else
              ((declaration.attributeLines ++ [declaration.openingLine]).map
                  (indents.flatten ++ ·)).map .ok ++
                tour files unit (way ++ [FileSystem.absolute location])
                  (indents ++ [declaration.indent ++ unit]) file 1 (lines (trim text)) ++
                .ok (indents.flatten ++ declaration.closingLine) ::
                  tour files unit way indents path (number + 1) rest := by
  rw [tour]
  cases parse? line number with
  | none => rfl
  | some declaration =>
    dsimp only
    cases resolve files path.directory declaration.name path with
    | error fault => rfl
    | ok file =>
      dsimp only
      split
      · next read => rw [read]
      · next read => rw [read]; rfl

/-! ## The lines that inlining leaves -/

theorem isLine_of_mem_block {line unit body row : Text} {number : Nat} {declaration : Declaration}
    (found : parse? line number = some declaration) (single : IsLine line) (unitLine : IsLine unit)
    (member : row ∈ block unit declaration body) : IsLine row := by
  obtain ⟨indent, -, -, -⟩ := subset_of_parse? found
  simp only [block, indentLines, List.mem_append, List.mem_cons, List.mem_map,
    List.not_mem_nil, or_false] at member
  rcases member with (above | rfl | ⟨inner, listed, rfl⟩) | rfl
  · exact (isPlain_of_mem_attributeLines found single above).1
  · exact (isPlain_openingLine found single).1
  · exact isLine_indentLine ((single.of_subset indent).append unitLine) (isLine_of_mem_lines listed)
  · exact (isPlain_closingLine found single).1

/-- Inlining leaves lines without a newline, and at least one of them. -/
theorem inlineLines_isLine {files : FileSystem} {unit : Text} {way : List Path} {path : Path}
    {number : Nat} {rows out : List Text} (unitLine : IsLine unit)
    (single : ∀ row ∈ rows, IsLine row)
    (done : inlineLines files unit way path number rows = .ok out) :
    (∀ row ∈ out, IsLine row) ∧ (rows ≠ [] → out ≠ []) := by
  induction rows generalizing number out with
  | nil =>
    rw [inlineLines] at done
    cases done
    simp
  | cons line rest ih =>
    have here := single line List.mem_cons_self
    obtain ⟨after, remaining, whole⟩ := exists_of_inlineLines_cons done
    have later := (ih (fun row there => single row (List.mem_cons_of_mem _ there)) remaining).1
    rcases whole with ⟨-, rfl⟩ | ⟨declaration, _, _, _, body, declared, -, -, -, -, rfl⟩
    · refine ⟨fun row member => ?_, fun _ => List.cons_ne_nil _ _⟩
      rcases List.mem_cons.mp member with rfl | there
      · exact here
      · exact later row there
    · refine ⟨fun row member => ?_, fun _ => by simp [block]⟩
      rcases List.mem_append.mp member with inBlock | there
      · exact isLine_of_mem_block declared here unitLine inBlock
      · exact later row there

/-! ## Indenting once and indenting level by level -/

theorem place_of_content {row : Text} (indents : List Text) (content : isBlank row = false) :
    place indents row = indents.flatten ++ row := by
  unfold place
  split
  · next root => rw [root]; rfl
  · rw [indentLine, content, if_neg Bool.false_ne_true]

theorem place_of_isBlank {row : Text} (indents : List Text) (indent : Text)
    (blank : isBlank row = true) : place (indents ++ [indent]) row = [] := by
  rw [place, if_neg (by simp), indentLine, if_pos blank]

/-- Indenting a line that is indented already is indenting it once, by both indentations. -/
theorem place_indentLine (indents : List Text) (indent row : Text) :
    place indents (indentLine indent row) = place (indents ++ [indent]) row := by
  cases blank : isBlank row with
  | true =>
    rw [place_of_isBlank indents indent blank, indentLine, if_pos blank, place]
    split
    · rfl
    · rfl
  | false =>
    have content : isBlank (indent ++ row) = false := by rw [isBlank_append, blank, Bool.and_false]
    rw [indentLine, blank, if_neg Bool.false_ne_true, place_of_content indents content,
      place_of_content _ blank, List.flatten_append, List.flatten_singleton, List.append_assoc]

theorem place_attributeLine {line row : Text} {number : Nat} {declaration : Declaration}
    (found : parse? line number = some declaration) (indents : List Text)
    (member : row ∈ declaration.attributeLines) : place indents row = indents.flatten ++ row := by
  obtain ⟨written, listed, rfl⟩ := List.mem_map.mp member
  obtain ⟨front, rfl⟩ := exists_attribute_of_parse? found listed
  have bracket : isBlank [']'] = false := by decide
  apply place_of_content
  rw [isBlank_append, isBlank_append, bracket, Bool.and_false, Bool.and_false]

theorem place_openingLine (declaration : Declaration) (indents : List Text) :
    place indents declaration.openingLine = indents.flatten ++ declaration.openingLine := by
  have brace : isBlank " \x7b".toList = false := by decide
  apply place_of_content
  rw [openingLine, isBlank_append, brace, Bool.and_false]

theorem place_closingLine (declaration : Declaration) (indents : List Text) :
    place indents declaration.closingLine = indents.flatten ++ declaration.closingLine := by
  have brace : isBlank ['}'] = false := by decide
  apply place_of_content
  rw [closingLine, isBlank_append, brace, Bool.and_false]

/-- The lines that replace a declaration, put behind the indentations of the file that holds it. -/
theorem map_place_block {line : Text} {number : Nat} {declaration : Declaration}
    (found : parse? line number = some declaration) (unit : Text) (indents : List Text)
    {body : List Text} (some : body ≠ []) (single : ∀ row ∈ body, IsLine row) :
    (block unit declaration (unlines body)).map (place indents) =
      (declaration.attributeLines ++ [declaration.openingLine]).map (indents.flatten ++ ·) ++
        body.map (place (indents ++ [declaration.indent ++ unit])) ++
          [indents.flatten ++ declaration.closingLine] := by
  have above : declaration.attributeLines.map (place indents) =
      declaration.attributeLines.map (indents.flatten ++ ·) :=
    List.map_congr_left (fun row member => place_attributeLine found indents member)
  rw [block, lines_unlines some single]
  simp only [indentLines, List.map_append, List.map_cons, List.map_map, List.map_nil, above,
    place_openingLine, place_closingLine, Function.comp_def, place_indentLine, List.append_assoc,
    List.cons_append, List.nil_append]

/-! ## What a walk gives -/

section Gathered

variable {ε α : Type} {before : List (Except ε α)} {found : List α} {fault : ε}

theorem mapM_id_map_ok (values : List α) : (values.map (Except.ok (ε := ε))).mapM id = .ok values := by
  induction values with
  | nil => rfl
  | cons value values ih => rw [List.map_cons, List.mapM_cons, ih]; rfl

theorem mapM_id_append_of_ok (start : before.mapM id = .ok found) (later : List (Except ε α)) :
    (before ++ later).mapM id = (later.mapM id).map (found ++ ·) := by
  rw [List.mapM_append, start]
  cases later.mapM id <;> rfl

theorem mapM_id_append_of_error (start : before.mapM id = .error fault)
    (later : List (Except ε α)) : (before ++ later).mapM id = .error fault := by
  rw [List.mapM_append, start]
  rfl

end Gathered

/-- A walk from anywhere gives the lines that inlining leaves there, each in its place, or the
fault that inlining ends with. -/
theorem mapM_tour {files : FileSystem} {unit : Text} {way : List Path} {path : Path} {number : Nat}
    {rows : List Text} (unitLine : IsLine unit) (single : ∀ row ∈ rows, IsLine row)
    (indents : List Text) :
    (tour files unit way indents path number rows).mapM id =
      (inlineLines files unit way path number rows).map (List.map (place indents)) := by
  fun_induction inlineLines files unit way path number rows generalizing indents with
  | case1 =>
    rw [tour]
    rfl
  | case2 way path number line rest undeclared ih =>
    have later := ih (fun row there => single row (List.mem_cons_of_mem _ there)) indents
    rw [tour_cons, undeclared]
    dsimp only
    rw [List.mapM_cons, later]
    cases inlineLines files unit way path (number + 1) rest <;> rfl
  | case3 way path number line rest declaration declared fault missing =>
    rw [tour_cons]
    simp only [declared, missing]
    rfl
  | case4 way path number line rest declaration declared file found refusal unread =>
    rw [tour_cons]
    simp only [declared, found, unread]
    rfl
  | case5 way path number line rest declaration declared file found location text read =>
    rename_i cycle
    rw [tour_cons]
    simp only [declared, found, read]
    rw [if_pos cycle]
    rfl
  | case6 way path number line rest declaration declared file found location text read _ new fault
      failed ih =>
    have inner := ih (fun _ => isLine_of_mem_lines) (indents ++ [declaration.indent ++ unit])
    rw [failed] at inner
    rw [tour_cons]
    simp only [declared, found, read]
    rw [if_neg new, List.append_assoc, mapM_id_append_of_ok (mapM_id_map_ok _),
      mapM_id_append_of_error inner]
    rfl
  | case7 way path number line rest declaration declared file found location text read _ new body
      inlined ihBody =>
    rename_i ih
    have inner := ihBody (fun _ => isLine_of_mem_lines) (indents ++ [declaration.indent ++ unit])
    have later := ih (fun row there => single row (List.mem_cons_of_mem _ there)) indents
    obtain ⟨bodyLines, some⟩ := inlineLines_isLine unitLine (fun _ => isLine_of_mem_lines) inlined
    rw [inlined] at inner
    rw [tour_cons]
    simp only [declared, found, read]
    rw [if_neg new, List.append_assoc, mapM_id_append_of_ok (mapM_id_map_ok _),
      mapM_id_append_of_ok inner, List.mapM_cons, later]
    cases inlineLines files unit way path (number + 1) rest with
    | error fault => rfl
    | ok rows =>
      have placed := map_place_block declared unit indents (some (lines_ne_nil _)) bodyLines
      simp only [Except.map, List.map_append, placed, List.append_assoc]
      rfl

theorem map_place_nil (rows : List Text) : rows.map (place []) = rows := by
  have unchanged : place [] = id := rfl
  rw [unchanged, List.map_id]

/-- Inlining gives the lines of the walk, or the first fault that the walk meets. -/
theorem inline_eq_walk (files : FileSystem) {unit : Text} (unitLine : IsLine unit) (path : Path)
    (text : Text) : inline files unit path text = ((walk files unit path text).mapM id).map unlines := by
  rw [walk, mapM_tour unitLine (fun _ => isLine_of_mem_lines), inline]
  cases inlineLines files unit [files.identity path] path 1 (lines text) with
  | error fault => rfl
  | ok rows => exact congrArg (fun rows => Except.ok (unlines rows)) (map_place_nil rows).symm

/-- A module in a directory, and a module of that module. -/
def twoLevels : FileSystem where
  entries :=
    [(["a".toList], .directory),
     (["a".toList, "mod.rs".toList],
        .file (.text "// A\n\n\tmod b;\nfn a();\n".toList) false),
     (["a".toList, "b.rs".toList], .file (.text " \nfn b();\n  \n fn c();\n".toList) false)]
  workingDirectory := []

theorem inline_eq_walk_twoLevels :
    IsLine "  ".toList ∧
      inline twoLevels "  ".toList ⟨"parser.rs".toList⟩ "\t\n  #[x] pub mod a;\n".toList =
        ((walk twoLevels "  ".toList ⟨"parser.rs".toList⟩
          "\t\n  #[x] pub mod a;\n".toList).mapM id).map unlines ∧
      inline twoLevels "  ".toList ⟨"parser.rs".toList⟩ "\t\n  #[x] pub mod a;\n".toList =
        .ok ("\t\n  #[x]\n  pub mod a \x7b\n    // A\n\n    \tmod b \x7b\n".toList ++
          "    \t  fn b();\n\n    \t   fn c();\n    \t\x7d\n    fn a();\n  \x7d\n".toList) := by
  exact ⟨by decide, inline_eq_walk _ (by decide) _ _, by decide +kernel⟩

end ParserRefresh.Modules
