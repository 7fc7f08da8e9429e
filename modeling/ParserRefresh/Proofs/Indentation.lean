import ParserRefresh.Proofs.WhiteSpace

/-! # Laws of indentation

A text of spaces and tabs that is put in front of lines becomes part of their indentation, and so
of the indentation that they share. What lines share is a start of the indentation of each of them
that is not blank, and it is the longest of all such starts, in whatever order the lines stand. -/

namespace ParserRefresh.Text

variable {indent : Text}

theorem isBlank_of_isIndent (spaces : ∀ c ∈ indent, isIndent c = true) : isBlank indent = true :=
  isBlank_iff.mpr (fun c inside => isSpace_of_isIndent (spaces c inside))

theorem isIndent_of_mem_leading {c : Char} {line : Text} (inside : c ∈ leading line) :
    isIndent c = true := List.mem_takeWhile_imp inside

theorem leading_append (spaces : ∀ c ∈ indent, isIndent c = true) (line : Text) :
    leading (indent ++ line) = indent ++ leading line :=
  List.takeWhile_append_of_pos spaces

theorem leading_isPrefix (line : Text) : leading line <+: line := List.takeWhile_prefix _

/-- Spaces and tabs that a line starts with are part of its indentation. -/
theorem isPrefix_leading_iff (spaces : ∀ c ∈ indent, isIndent c = true) {line : Text} :
    indent <+: leading line ↔ indent <+: line := by
  constructor
  · intro start
    exact start.trans (leading_isPrefix line)
  · rintro ⟨rest, rfl⟩
    rw [leading_append spaces]
    exact List.prefix_append _ _

/-! ## Common starts -/

theorem commonStart_append (start left right : Text) :
    commonStart (start ++ left) (start ++ right) = start ++ commonStart left right := by
  induction start with
  | nil => rfl
  | cons c start ih =>
    rw [List.cons_append, List.cons_append, commonStart, if_pos rfl, ih, List.cons_append]

theorem commonStart_isPrefix (left right : Text) :
    commonStart left right <+: left ∧ commonStart left right <+: right := by
  fun_induction commonStart left right with
  | case1 c left right ih =>
    exact ⟨List.cons_prefix_cons.mpr ⟨rfl, ih.1⟩, List.cons_prefix_cons.mpr ⟨rfl, ih.2⟩⟩
  | case2 => exact ⟨List.nil_prefix, List.nil_prefix⟩
  | case3 => exact ⟨List.nil_prefix, List.nil_prefix⟩

/-- What two texts start with, their longest common start starts with. -/
theorem isPrefix_commonStart {start left right : Text} (isStart : start <+: left)
    (isStart' : start <+: right) : start <+: commonStart left right := by
  obtain ⟨rest, rfl⟩ := isStart
  obtain ⟨rest', rfl⟩ := isStart'
  rw [commonStart_append]
  exact List.prefix_append _ _

/-! ## Shared indentation -/

theorem shareIndent_of_isBlank {row : Text} (blank : isBlank row = true) (shared : Option Text) :
    shareIndent shared row = shared := if_pos blank

theorem shareIndent_none {row : Text} (content : isBlank row = false) :
    shareIndent none row = some (leading row) := if_neg (Bool.eq_false_iff.mp content)

theorem shareIndent_some {row : Text} (content : isBlank row = false) (current : Text) :
    shareIndent (some current) row = some (commonStart current (leading row)) :=
  if_neg (Bool.eq_false_iff.mp content)

/-- What is shared already gets shorter at most. -/
theorem exists_foldl_shareIndent (rows : List Text) (shared : Text) :
    ∃ found, rows.foldl shareIndent (some shared) = some found ∧ found <+: shared := by
  induction rows generalizing shared with
  | nil => exact ⟨shared, rfl, List.prefix_rfl⟩
  | cons row rows ih =>
    rw [List.foldl_cons]
    cases blank : isBlank row with
    | true =>
      rw [shareIndent_of_isBlank blank]
      exact ih shared
    | false =>
      rw [shareIndent_some blank]
      obtain ⟨found, folded, start⟩ := ih (commonStart shared (leading row))
      exact ⟨found, folded, start.trans (commonStart_isPrefix shared (leading row)).1⟩

theorem exists_foldl_shareIndent_of_mem {rows : List Text} {row : Text} (member : row ∈ rows)
    (content : isBlank row = false) (shared : Option Text) :
    ∃ found, rows.foldl shareIndent shared = some found ∧ found <+: leading row := by
  induction rows generalizing shared with
  | nil => cases member
  | cons first rows ih =>
    rw [List.foldl_cons]
    rcases List.mem_cons.mp member with rfl | later
    · cases shared with
      | none =>
        rw [shareIndent_none content]
        exact exists_foldl_shareIndent rows (leading row)
      | some current =>
        rw [shareIndent_some content]
        obtain ⟨found, folded, start⟩ :=
          exists_foldl_shareIndent rows (commonStart current (leading row))
        exact ⟨found, folded, start.trans (commonStart_isPrefix current (leading row)).2⟩
    · exact ih later _

/-- The lines share a start of the indentation of each line that is not blank. -/
theorem commonIndent_isPrefix {rows : List Text} {row : Text} (member : row ∈ rows)
    (content : isBlank row = false) : commonIndent rows <+: leading row := by
  obtain ⟨found, folded, start⟩ := exists_foldl_shareIndent_of_mem member content none
  rw [commonIndent, folded]
  exact start

theorem commonIndent_isPrefix_line {rows : List Text} {row : Text} (member : row ∈ rows)
    (content : isBlank row = false) : commonIndent rows <+: row :=
  (commonIndent_isPrefix member content).trans (leading_isPrefix row)

/-- What everything starts with that has been shared or is in the lines, stays shared. -/
theorem isPrefix_of_mem_foldl_shareIndent {rows : List Text} {shared : Option Text}
    (sofar : ∀ current ∈ shared, indent <+: current)
    (every : ∀ row ∈ rows, isBlank row = false → indent <+: leading row) :
    ∀ found ∈ rows.foldl shareIndent shared, indent <+: found := by
  induction rows generalizing shared with
  | nil => exact sofar
  | cons row rows ih =>
    have later := fun other member => every other (List.mem_cons_of_mem row member)
    rw [List.foldl_cons]
    cases blank : isBlank row with
    | true =>
      rw [shareIndent_of_isBlank blank]
      exact ih sofar later
    | false =>
      have here := every row List.mem_cons_self blank
      refine ih ?_ later
      cases shared with
      | none =>
        rw [shareIndent_none blank]
        rintro _ ⟨⟩
        exact here
      | some current =>
        rw [shareIndent_some blank]
        rintro _ ⟨⟩
        exact isPrefix_commonStart (sofar current rfl) here

/-- Spaces and tabs that every line with content starts with are part of the indentation that the
lines share. -/
theorem isPrefix_commonIndent (spaces : ∀ c ∈ indent, isIndent c = true) {rows : List Text}
    {row : Text} (member : row ∈ rows) (content : isBlank row = false)
    (every : ∀ row ∈ rows, isBlank row = false → indent <+: row) : indent <+: commonIndent rows := by
  obtain ⟨found, folded, -⟩ := exists_foldl_shareIndent_of_mem member content none
  rw [commonIndent, folded]
  refine isPrefix_of_mem_foldl_shareIndent (fun _ none => by cases none) ?_ found folded
  intro other there filled
  exact (isPrefix_leading_iff spaces).mpr (every other there filled)

theorem isIndent_of_mem_commonIndent {rows : List Text} {row : Text} (member : row ∈ rows)
    (content : isBlank row = false) : ∀ c ∈ commonIndent rows, isIndent c = true :=
  fun _ inside => isIndent_of_mem_leading ((commonIndent_isPrefix member content).subset inside)

/-- Lines share an indentation exactly if some spaces or tabs stand in front of each of them. -/
theorem commonIndent_ne_nil_iff {rows : List Text} {row : Text} (member : row ∈ rows)
    (content : isBlank row = false) :
    commonIndent rows ≠ [] ↔ ∃ indent, indent ≠ [] ∧ (∀ c ∈ indent, isIndent c = true) ∧
      ∀ row ∈ rows, isBlank row = false → indent <+: row := by
  constructor
  · intro shared
    exact ⟨_, shared, isIndent_of_mem_commonIndent member content,
      fun other => commonIndent_isPrefix_line⟩
  · rintro ⟨indent, some, spaces, every⟩ nothing
    have start := isPrefix_commonIndent spaces member content every
    rw [nothing] at start
    exact some (List.prefix_nil.mp start)

theorem shareIndent_indentLine (spaces : ∀ c ∈ indent, isIndent c = true) (shared : Option Text)
    (row : Text) :
    shareIndent (shared.map (indent ++ ·)) (indentLine indent row) =
      (shareIndent shared row).map (indent ++ ·) := by
  unfold indentLine
  cases blank : isBlank row with
  | true =>
    rw [if_pos rfl, shareIndent_of_isBlank isBlank_nil, shareIndent_of_isBlank blank]
  | false =>
    have content : isBlank (indent ++ row) = false := by
      rw [isBlank_append, blank, Bool.and_false]
    rw [if_neg Bool.false_ne_true]
    cases shared with
    | none =>
      rw [Option.map_none, shareIndent_none content, shareIndent_none blank,
        leading_append spaces]
      rfl
    | some current =>
      rw [Option.map_some, shareIndent_some content, shareIndent_some blank,
        leading_append spaces, commonStart_append]
      rfl

theorem foldl_shareIndent_indentLines (spaces : ∀ c ∈ indent, isIndent c = true)
    (rows : List Text) (shared : Option Text) :
    (indentLines indent rows).foldl shareIndent (shared.map (indent ++ ·)) =
      (rows.foldl shareIndent shared).map (indent ++ ·) := by
  induction rows generalizing shared with
  | nil => rfl
  | cons row rows ih =>
    rw [indentLines, List.map_cons, List.foldl_cons, List.foldl_cons,
      shareIndent_indentLine spaces]
    exact ih (shareIndent shared row)

/-- Indenting lines indents what they share, if one of them is not blank. -/
theorem commonIndent_indentLines (spaces : ∀ c ∈ indent, isIndent c = true) {rows : List Text}
    {row : Text} (member : row ∈ rows) (content : isBlank row = false) :
    commonIndent (indentLines indent rows) = indent ++ commonIndent rows := by
  have folded := foldl_shareIndent_indentLines spaces rows none
  obtain ⟨found, shares, -⟩ := exists_foldl_shareIndent_of_mem member content none
  rw [shares] at folded
  rw [commonIndent, commonIndent, shares]
  exact congrArg (fun shared => Option.getD shared []) folded

/-! ## The longest shared indentation -/

/-- Spaces and tabs that every line with content starts with. -/
structure IsSharedIndent (rows : List Text) (indent : Text) : Prop where
  spaces : ∀ c ∈ indent, isIndent c = true
  starts : ∀ row ∈ rows, isBlank row = false → indent <+: row

/-- A shared indentation that goes as far as any other. Blank lines alone share every indentation,
so that none of them is the longest, and there it is the empty one. -/
structure IsLongestIndent (rows : List Text) (indent : Text) : Prop
    extends IsSharedIndent rows indent where
  longest : (∃ row ∈ rows, isBlank row = false) →
    ∀ other, IsSharedIndent rows other → other <+: indent
  empty : (∀ row ∈ rows, isBlank row = true) → indent = []

theorem IsSharedIndent.nil (rows : List Text) : IsSharedIndent rows [] where
  spaces := List.forall_mem_nil _
  starts _ _ _ := List.nil_prefix

/-- Lines have one longest indentation at most. -/
theorem IsLongestIndent.eq {rows : List Text} {left right : Text} (first : IsLongestIndent rows left)
    (second : IsLongestIndent rows right) : left = right := by
  by_cases content : ∃ row ∈ rows, isBlank row = false
  · have before := second.longest content left first.toIsSharedIndent
    have after := first.longest content right second.toIsSharedIndent
    exact before.eq_of_length (Nat.le_antisymm before.length_le after.length_le)
  · have blank : ∀ row ∈ rows, isBlank row = true := by simpa using content
    rw [first.empty blank, second.empty blank]

theorem foldl_shareIndent_of_isBlank {rows : List Text} (blank : ∀ row ∈ rows, isBlank row = true)
    (shared : Option Text) : rows.foldl shareIndent shared = shared := by
  induction rows with
  | nil => rfl
  | cons row rows ih =>
    rw [List.foldl_cons, shareIndent_of_isBlank (blank row List.mem_cons_self)]
    exact ih (fun other later => blank other (List.mem_cons_of_mem row later))

theorem commonIndent_of_isBlank {rows : List Text} (blank : ∀ row ∈ rows, isBlank row = true) :
    commonIndent rows = [] := by
  rw [commonIndent, foldl_shareIndent_of_isBlank blank, Option.getD_none]

theorem isLongestIndent_commonIndent (rows : List Text) :
    IsLongestIndent rows (commonIndent rows) := by
  by_cases content : ∃ row ∈ rows, isBlank row = false
  · obtain ⟨row, member, filled⟩ := content
    have shared : IsSharedIndent rows (commonIndent rows) :=
      ⟨isIndent_of_mem_commonIndent member filled, fun other => commonIndent_isPrefix_line⟩
    refine ⟨shared, fun _ other also => ?_, fun blank => ?_⟩
    · exact isPrefix_commonIndent also.spaces member filled also.starts
    · rw [blank row member] at filled
      cases filled
  · have blank : ∀ row ∈ rows, isBlank row = true := by simpa using content
    rw [commonIndent_of_isBlank blank]
    exact ⟨IsSharedIndent.nil rows, fun filled => absurd filled content, fun _ => rfl⟩

/-- The common indentation of lines is the longest one that those with content share, and spaces
and tabs that are put in front of these lines are put in front of it. -/
theorem commonIndent_longest (rows : List Text) :
    (∀ indent, commonIndent rows = indent ↔ IsLongestIndent rows indent) ∧
    ((∃ row ∈ rows, isBlank row = false) → ∀ indent : Text, (∀ c ∈ indent, isIndent c = true) →
      commonIndent (indentLines indent rows) = indent ++ commonIndent rows) := by
  refine ⟨fun indent => ⟨?_, ?_⟩, ?_⟩
  · rintro rfl
    exact isLongestIndent_commonIndent rows
  · intro longest
    exact (isLongestIndent_commonIndent rows).eq longest
  · rintro ⟨row, member, content⟩ indent spaces
    exact commonIndent_indentLines spaces member content

/-- Lines behind tabs and spaces, one with a wide space behind those, among blank lines that start
in other ways. -/
def mixedRows : List Text :=
  ["\u3000", " \t\tfn", "", " \t\u3000x ", "\t", " \t \tlet"].map String.toList

theorem commonIndent_longest_mixedRows :
    IsLongestIndent mixedRows " \t".toList ∧
    commonIndent (indentLines "\t ".toList mixedRows) = "\t  \t".toList ∧
    commonIndent ["\u3000".toList, "  ".toList] = [] := by
  obtain ⟨longest, indented⟩ := commonIndent_longest mixedRows
  have found : commonIndent mixedRows = " \t".toList := by decide +kernel
  have content : ∃ row ∈ mixedRows, isBlank row = false :=
    ⟨" \t\tfn".toList, by decide +kernel, by decide +kernel⟩
  have blank : ∀ row ∈ ["\u3000".toList, "  ".toList], isBlank row = true := by decide +kernel
  have spaces : ∀ c ∈ "\t ".toList, isIndent c = true := List.all_eq_true.mp rfl
  refine ⟨(longest _).mp found, ?_, ?_⟩
  · rw [indented content _ spaces, found]
    rfl
  · exact (((commonIndent_longest _).1 _).mp rfl).empty blank

end ParserRefresh.Text
