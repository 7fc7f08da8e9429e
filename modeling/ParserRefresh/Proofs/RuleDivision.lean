import ParserRefresh.Proofs.Division

/-! # Marked spans removed

The lines of a text are divided in one way into lines outside of marked spans, spans and at most one
span, the last one, that is never closed. Stripping keeps the lines outside, or names the line that
opens the span without an end. -/

namespace ParserRefresh.Rules

open Text

variable {markers : Markers} {rows : List Text}

/-- A line that opens a marked span. -/
def IsStart (markers : Markers) (row : Text) : Prop := trim row = markers.rulesStart

/-- A line that closes a marked span, whichever line opens it. -/
def IsEnd (markers : Markers) (_opening row : Text) : Prop := trim row = markers.rulesEnd

instance (markers : Markers) (row : Text) : Decidable (IsStart markers row) :=
  inferInstanceAs (Decidable (trim row = markers.rulesStart))

instance (markers : Markers) (opening row : Text) : Decidable (IsEnd markers opening row) :=
  inferInstanceAs (Decidable (trim row = markers.rulesEnd))

/-- Lines divided at their marked spans. -/
abbrev SpanDivision (markers : Markers) (rows : List Text) : Type :=
  Division (IsStart markers) (IsEnd markers) rows

/-! ## Reading divided lines -/

theorem outside_of_isStart {row : Text} (start : IsStart markers row) (number : Nat)
    (rest : List Text) :
    outside markers none number (row :: rest) = outside markers (some number) (number + 1) rest := by
  rw [outside]
  exact if_pos start

theorem outside_of_not_isStart {row : Text} (plain : ¬ IsStart markers row) (number : Nat)
    (rest : List Text) :
    outside markers none number (row :: rest) =
      (outside markers none (number + 1) rest).map (row :: ·) := by
  rw [outside]
  exact if_neg plain

/-- Reading goes on behind what is read at once. -/
theorem outside_part (number : Nat) (part : Part (IsStart markers) (IsEnd markers))
    (rest : List Text) :
    outside markers none number (part.rows ++ rest) =
      (outside markers none (number + part.rows.length) rest).map (part.kept ++ ·) := by
  cases part with
  | line row plain => exact outside_of_not_isStart plain number rest
  | block span =>
    have whole : span.rows ++ rest = span.opening :: (span.inside ++ span.closing :: rest) := by
      simp [Span.rows]
    have behind : number + span.rows.length = number + 1 + span.inside.length + 1 := by
      simp only [Span.rows, List.length_cons, List.length_append, List.length_nil]
      omega
    rw [Part.rows, Part.kept, whole, outside_of_isStart span.opened,
      outside_some_append_of_forall_ne _ _ _ span.open_inside span.closed, behind]
    cases outside markers none (number + 1 + span.inside.length + 1) rest <;> rfl

theorem outside_parts (number : Nat) (parts : List (Part (IsStart markers) (IsEnd markers)))
    (rest : List Text) :
    outside markers none number (parts.flatMap Part.rows ++ rest) =
      (outside markers none (number + (parts.flatMap Part.rows).length) rest).map
        (parts.flatMap Part.kept ++ ·) := by
  induction parts generalizing number with
  | nil =>
    rw [List.flatMap_nil, List.nil_append, List.length_nil, Nat.add_zero]
    cases outside markers none number rest <;> rfl
  | cons part parts ih =>
    rw [List.flatMap_cons, List.append_assoc, outside_part, ih, List.length_append, ← Nat.add_assoc]
    cases outside markers none (number + part.rows.length + (parts.flatMap Part.rows).length) rest with
    | error opened => rfl
    | ok kept => simp [Except.map]

/-- A span without an end is read to the end of the lines. -/
theorem outside_some_of_forall_ne {inside : List Text} (opened number : Nat)
    (open_inside : ∀ row ∈ inside, trim row ≠ markers.rulesEnd) :
    outside markers (some opened) number inside = .error opened := by
  induction inside generalizing number with
  | nil => rfl
  | cons row inside ih =>
    rw [outside, if_neg (open_inside row List.mem_cons_self)]
    exact ih (number + 1) fun other member => open_inside other (List.mem_cons_of_mem _ member)

theorem outside_pending (number : Nat) (pending : Pending (IsStart markers) (IsEnd markers)) :
    outside markers none number pending.rows = .error number := by
  rw [Pending.rows, outside_of_isStart pending.opened]
  exact outside_some_of_forall_ne number (number + 1) pending.open_inside

/-- What is read from divided lines. -/
theorem outside_division (division : SpanDivision markers rows) :
    outside markers none 1 rows =
      match division.pending with
      | none => .ok division.kept
      | some _ => .error division.pendingLine := by
  calc
    outside markers none 1 rows =
        outside markers none 1
          (division.parts.flatMap Part.rows ++ division.pending.elim [] Pending.rows) := by
      rw [division.rows_eq]
    _ = (outside markers none division.pendingLine (division.pending.elim [] Pending.rows)).map
          (division.kept ++ ·) := outside_parts 1 division.parts _
    _ = _ := by
      cases division.pending with
      | none =>
        rw [Option.elim_none, outside, Except.map]
        simp
      | some pending =>
        rw [Option.elim_some, outside_pending]
        rfl

/-! ## Stripping divided lines -/

theorem strip_of_pending_eq_none {text : Text} (division : SpanDivision markers (lines text))
    (closed : division.pending = none) : strip markers text = .ok (unlines division.kept) := by
  rw [strip, outside_division division, closed]

theorem strip_of_pending_eq_some {text : Text} (division : SpanDivision markers (lines text))
    {pending : Pending (IsStart markers) (IsEnd markers)}
    (unclosed : division.pending = some pending) :
    strip markers text =
      .error (Cause.missingMarker markers.rulesEnd
        (neverClosed markers.rulesStart division.pendingLine)) := by
  rw [strip, outside_division division, unclosed]

/-- A text without start markers is left as it is. -/
theorem strip_of_forall_ne {text : Text}
    (clean : ∀ row ∈ lines text, trim row ≠ markers.rulesStart) : strip markers text = .ok text := by
  have whole := outside_append_of_forall_ne 1 [] clean
  rw [List.append_nil, outside, Except.map, List.append_nil] at whole
  rw [strip, whole]
  exact congrArg Except.ok (unlines_lines text)

/-- Stripping removes the marked spans of the one division of a text: what is left are the lines
outside of them, it has no start marker, and it is left as it is. If a span is never closed, the end
marker is named as missing and the line that opens this span is given. -/
theorem exists_spanDivision (marked : markers.rulesStart ≠ []) (text : Text) :
    ∃ division : SpanDivision markers (lines text),
      (∀ other : SpanDivision markers (lines text), other = division) ∧
      (division.pending = none →
        strip markers text = .ok (unlines division.kept) ∧
        (∀ row ∈ lines (unlines division.kept), trim row ≠ markers.rulesStart) ∧
        strip markers (unlines division.kept) = .ok (unlines division.kept)) ∧
      ∀ pending, division.pending = some pending →
        strip markers text =
          .error (Cause.missingMarker markers.rulesEnd
            (neverClosed markers.rulesStart division.pendingLine)) := by
  obtain ⟨division⟩ : Nonempty (SpanDivision markers (lines text)) :=
    Division.exists_division (lines text)
  have clean : ∀ row ∈ lines (unlines division.kept), trim row ≠ markers.rulesStart := by
    -- A text without any lines has the empty line still, which no marker is.
    have blank : trim [] ≠ markers.rulesStart := fun same => marked same.symm
    have flat : ∀ row ∈ division.kept, IsLine row :=
      fun row member => isLine_of_mem_lines (division.kept_subset member)
    rw [forall_mem_lines_unlines blank flat]
    exact fun row member => division.not_opens_of_mem_kept member
  refine ⟨division, fun other => Subsingleton.elim other division, ?_, ?_⟩
  · intro closed
    exact ⟨strip_of_pending_eq_none division closed, clean, strip_of_forall_ne clean⟩
  · intro pending unclosed
    exact strip_of_pending_eq_some division unclosed

def sameMarkers : Markers := { rulesStart := "---".toList, rulesEnd := "---".toList }

def onlySpans : Text := "---\na\n ---\n---\n\t---".toList

def onlySpansDivision : SpanDivision sameMarkers (lines onlySpans) where
  parts :=
    [.block ⟨"---".toList, ["a".toList], " ---".toList, by decide, by decide, by decide⟩,
     .block ⟨"---".toList, [], "\t---".toList, by decide, by decide, by decide⟩]
  pending := none
  rows_eq := by decide

/-- A text with a stray end marker, a span with a start marker in it, and a span without an end. -/
def halfSpans : Text :=
  "// RULES END\n\t// RULES START\n// RULES START\n// RULES END\r\nb\n// RULES START\nc".toList

def halfSpansDivision : SpanDivision {} (lines halfSpans) where
  parts :=
    [.line "// RULES END".toList (by decide),
     .block ⟨"\t// RULES START".toList, ["// RULES START".toList], "// RULES END\r".toList,
       by decide, by decide, by decide⟩,
     .line "b".toList (by decide)]
  pending := some ⟨"// RULES START".toList, ["c".toList], by decide, by decide⟩
  rows_eq := by decide

theorem exists_spanDivision_of_only_and_half :
    sameMarkers.rulesStart ≠ [] ∧ ({} : Markers).rulesStart ≠ [] ∧
      strip sameMarkers onlySpans = .ok [] ∧ strip sameMarkers [] = .ok [] ∧
      strip {} halfSpans =
        .error (Cause.missingMarker "// RULES END".toList
          "'// RULES START' on line 6 is never closed".toList) := by
  have marked : sameMarkers.rulesStart ≠ [] := by decide
  have marked' : ({} : Markers).rulesStart ≠ [] := by decide
  obtain ⟨first, onlyFirst, closed, -⟩ := exists_spanDivision marked onlySpans
  obtain ⟨second, onlySecond, -, unclosed⟩ := exists_spanDivision marked' halfSpans
  rw [← onlyFirst onlySpansDivision] at closed
  rw [← onlySecond halfSpansDivision] at unclosed
  obtain ⟨stripped, -, again⟩ := closed rfl
  have failed := unclosed _ rfl
  have kept : unlines onlySpansDivision.kept = [] := by decide
  rw [kept] at stripped again
  have wording : neverClosed ({} : Markers).rulesStart halfSpansDivision.pendingLine =
      "'// RULES START' on line 6 is never closed".toList := by decide
  rw [wording] at failed
  exact ⟨marked, marked', stripped, again, failed⟩

end ParserRefresh.Rules
