import ParserRefresh.Text.Indent

/-! # Lines and the texts they make up

Cutting a text into lines and putting lines together undo each other, as long as there is a line
at all and no line holds a newline. When the pieces that are put together do hold newlines, the
lines of the whole are the lines of the pieces. -/

namespace ParserRefresh.Text

/-- A text without a newline. -/
def IsLine (row : Text) : Prop := '\n' ∉ row

instance (row : Text) : Decidable (IsLine row) := inferInstanceAs (Decidable ('\n' ∉ row))

/-- A character that does not separate goes to the front of the first piece. -/
theorem exists_split_cons {separator c : Char} (other : c ≠ separator) (text : Text) :
    ∃ piece rest, split separator text = piece :: rest ∧
      split separator (c :: text) = (c :: piece) :: rest := by
  cases cut : split separator text with
  | nil => exact absurd cut (split_ne_nil separator text)
  | cons piece rest =>
    refine ⟨piece, rest, rfl, ?_⟩
    rw [split_cons, cut]
    simp [pushFront, other]

theorem split_eq_splitOn (separator : Char) (text : Text) :
    split separator text = text.splitOn separator := by
  induction text with
  | nil => rfl
  | cons c text ih =>
    rw [List.splitOn_cons_eq_if_modifyHead]
    by_cases same : c = separator
    · simp [same, ih]
    · obtain ⟨piece, rest, cut, whole⟩ := exists_split_cons same text
      rw [whole, ← ih, cut]
      simp [same]

/-- A piece holds characters of the text only, and no separator. -/
theorem mem_of_mem_split {separator c : Char} {piece text : Text}
    (member : piece ∈ split separator text) (inside : c ∈ piece) : c ∈ text ∧ c ≠ separator := by
  induction text generalizing piece with
  | nil =>
    rw [split_nil, List.mem_singleton] at member
    rw [member] at inside
    cases inside
  | cons d text ih =>
    by_cases same : d = separator
    · rw [same, split_separator] at member
      rcases List.mem_cons.mp member with rfl | later
      · cases inside
      · exact ⟨List.mem_cons_of_mem _ (ih later inside).1, (ih later inside).2⟩
    · obtain ⟨first, rest, cut, whole⟩ := exists_split_cons same text
      rw [whole] at member
      rw [cut] at ih
      rcases List.mem_cons.mp member with rfl | later
      · rcases List.mem_cons.mp inside with rfl | within
        · exact ⟨List.mem_cons_self, same⟩
        · have found := ih List.mem_cons_self within
          exact ⟨List.mem_cons_of_mem _ found.1, found.2⟩
      · have found := ih (List.mem_cons_of_mem _ later) inside
        exact ⟨List.mem_cons_of_mem _ found.1, found.2⟩

theorem isLine_of_mem_lines {row text : Text} (member : row ∈ lines text) : IsLine row :=
  fun inside => (mem_of_mem_split member inside).2 rfl

theorem isLine_nil : IsLine [] := List.not_mem_nil

theorem IsLine.append {left right : Text} (start : IsLine left) (rest : IsLine right) :
    IsLine (left ++ right) := by
  intro inside
  rcases List.mem_append.mp inside with before | after
  · exact start before
  · exact rest after

/-- A text of some of the characters of a line is a line. -/
theorem IsLine.of_subset {row part : Text} (line : IsLine row) (subset : part ⊆ row) :
    IsLine part :=
  fun inside => line (subset inside)

theorem isLine_indentLine {indent row : Text} (start : IsLine indent) (line : IsLine row) :
    IsLine (indentLine indent row) := by
  unfold indentLine
  split
  · exact isLine_nil
  · exact start.append line

theorem lines_of_isLine {row : Text} (line : IsLine row) : lines row = [row] := by
  rw [lines, split_eq_splitOn]
  exact List.splitOn_eq_singleton line

theorem split_append_separator (separator : Char) (first second : Text) :
    split separator (first ++ separator :: second) =
      split separator first ++ split separator second := by
  simp only [split_eq_splitOn]
  exact List.splitOn_append_cons_self first second

theorem lines_append_newline (first second : Text) :
    lines (first ++ '\n' :: second) = lines first ++ lines second :=
  split_append_separator '\n' first second

/-- The lines of pieces put together are the lines of the pieces. -/
theorem lines_unlines_eq_flatMap {pieces : List Text} (some : pieces ≠ []) :
    lines (unlines pieces) = pieces.flatMap lines := by
  induction pieces with
  | nil => exact absurd rfl some
  | cons piece rest ih =>
    cases rest with
    | nil => simp [unlines]
    | cons next rest =>
      have later := ih (by simp)
      rw [unlines, join_cons piece (by simp), lines_append_newline]
      rw [unlines] at later
      rw [later]
      rfl

theorem lines_unlines {rows : List Text} (some : rows ≠ []) (single : ∀ row ∈ rows, IsLine row) :
    lines (unlines rows) = rows := by
  rw [lines_unlines_eq_flatMap some]
  clear some
  induction rows with
  | nil => rfl
  | cons row rest ih =>
    rw [List.flatMap_cons, lines_of_isLine (single row List.mem_cons_self),
      ih (fun other member => single other (List.mem_cons_of_mem _ member))]
    rfl

/-- Without any lines at all the text has one line still, the empty one. Nothing else is gained by
putting lines together and cutting them again. -/
theorem forall_mem_lines_unlines {p : Text → Prop} {rows : List Text} (blank : p [])
    (single : ∀ row ∈ rows, IsLine row) :
    (∀ row ∈ lines (unlines rows), p row) ↔ ∀ row ∈ rows, p row := by
  cases rows with
  | nil => simp [unlines, join, lines, blank]
  | cons row rest => rw [lines_unlines (by simp) single]

end ParserRefresh.Text
