import Mathlib.Data.List.Basic
import ParserRefresh.Proofs.Lines
import ParserRefresh.Proofs.WhiteSpace
import ParserRefresh.Source.Tidy

/-! # The lines of a tidy text

Tidying looks back: a closing brace takes away the gap above it, among the lines that are there so
far. What comes of it can be told by looking ahead instead: each line is trimmed at its end, and a
blank one below the first goes when the next line that is not blank holds a closing brace. -/

namespace ParserRefresh.Tidy

open Text

variable {kept rows : List Text} {row : Text}

/-! ## Looking ahead -/

/-- Whether the next line that is not blank is there and holds a closing brace only. -/
def braceNext (rows : List Text) : Bool :=
  (rows.find? (fun row => !isBlank row)).any (fun row => trim row == ['}'])

/-- What stays of lines that stand below another one. -/
def closeGaps : List Text → List Text
  | [] => []
  | row :: rows =>
    if isBlank row && braceNext rows then closeGaps rows else trimEnd row :: closeGaps rows

theorem braceNext_cons_of_isBlank (blank : isBlank row = true) (rows : List Text) :
    braceNext (row :: rows) = braceNext rows := by
  simp [braceNext, blank]

theorem braceNext_cons_of_content (content : isBlank row = false) (rows : List Text) :
    braceNext (row :: rows) = (trim row == ['}']) := by
  simp [braceNext, content]

theorem closeGaps_cons_of_content (content : isBlank row = false) (rows : List Text) :
    closeGaps (row :: rows) = trimEnd row :: closeGaps rows := by
  rw [closeGaps, content, Bool.false_and, if_neg Bool.false_ne_true]

theorem closeGaps_cons_of_isBlank (blank : isBlank row = true) (rows : List Text) :
    closeGaps (row :: rows) = if braceNext rows then closeGaps rows else [] :: closeGaps rows := by
  rw [closeGaps, blank, Bool.true_and, trimEnd_eq_nil_iff.mpr blank]

/-! ## Looking back -/

theorem addLine_eq (kept : List Text) (line : Text) :
    addLine kept line =
      trimEnd line :: if trim line = ['}'] then closeGap kept else kept := by
  rw [addLine, trim, trimEnd_trimStart]
  split <;> rfl

theorem closeGap_singleton (line : Text) : closeGap [line] = [line] := by
  cases line with
  | nil => rfl
  | cons c line => rfl

theorem closeGap_cons_nil (some : kept ≠ []) : closeGap ([] :: kept) = closeGap kept := by
  rw [closeGap, closeGap, List.dropWhile_cons_of_pos rfl]
  split
  · next blank =>
    -- Nothing but blank lines: the one that stays is any of them.
    cases kept with
    | nil => exact absurd rfl some
    | cons line rest =>
      have empty := List.dropWhile_eq_nil_iff.mp blank line List.mem_cons_self
      rw [List.isEmpty_iff.mp empty]
      rfl
  · rfl

theorem closeGap_cons_of_ne {line : Text} (content : line ≠ []) (kept : List Text) :
    closeGap (line :: kept) = line :: kept := by
  have stops : ¬ line.isEmpty = true := fun empty => content (List.isEmpty_iff.mp empty)
  rw [closeGap, List.dropWhile_cons_of_neg stops]

/-- Adding lines one by one keeps of them what looking ahead keeps; the first brace to come closes
the gap that is open before them. -/
theorem foldl_addLine (some : kept ≠ []) (rows : List Text) :
    rows.foldl addLine kept =
      (closeGaps rows).reverse ++ if braceNext rows then closeGap kept else kept := by
  induction rows generalizing kept with
  | nil => rfl
  | cons row rows ih =>
    rw [List.foldl_cons, addLine_eq, ih (List.cons_ne_nil _ _)]
    cases blank : isBlank row with
    | true =>
      have noBrace : trim row ≠ ['}'] := by
        rw [trim_of_isBlank blank]
        exact (List.cons_ne_nil _ _).symm
      rw [if_neg noBrace, trimEnd_eq_nil_iff.mpr blank, closeGaps_cons_of_isBlank blank,
        braceNext_cons_of_isBlank blank, closeGap_cons_nil some]
      split
      · rfl
      · rw [List.reverse_cons, List.append_assoc, List.singleton_append]
    | false =>
      have content : trimEnd row ≠ [] := by
        rw [Ne, trimEnd_eq_nil_iff, blank]
        exact Bool.false_ne_true
      rw [closeGap_cons_of_ne content, ite_self, closeGaps_cons_of_content blank,
        braceNext_cons_of_content blank, List.reverse_cons, List.append_assoc,
        List.singleton_append]
      simp only [beq_iff_eq]

/-! ## The lines of the result -/

/-- A line below the first that is kept is a line without the white space at its end. -/
theorem exists_trimEnd_of_mem_closeGaps (member : row ∈ closeGaps rows) :
    ∃ line ∈ rows, row = trimEnd line := by
  induction rows with
  | nil => cases member
  | cons line rows ih =>
    rw [closeGaps] at member
    split at member
    · obtain ⟨source, there, same⟩ := ih member
      exact ⟨source, List.mem_cons_of_mem _ there, same⟩
    · rcases List.mem_cons.mp member with same | later
      · exact ⟨line, List.mem_cons_self, same⟩
      · obtain ⟨source, there, same⟩ := ih later
        exact ⟨source, List.mem_cons_of_mem _ there, same⟩

/-- The first line stays, trimmed at its end, and of the others those that looking ahead keeps. -/
theorem lines_tidy {text first : Text} (cut : lines text = first :: rows) :
    lines (tidy text) = trimEnd first :: closeGaps rows := by
  have begun : addLine [] first = [trimEnd first] := by
    rw [addLine_eq]
    split <;> rfl
  rw [tidy, cut, List.foldl_cons, begun, foldl_addLine (List.cons_ne_nil _ _), closeGap_singleton,
    ite_self, List.reverse_append, List.reverse_reverse, List.reverse_singleton,
    List.singleton_append]
  refine lines_unlines (List.cons_ne_nil _ _) (fun row member => ?_)
  have single : ∀ line ∈ first :: rows, IsLine line := by
    rw [← cut]
    exact fun _ => isLine_of_mem_lines
  rcases List.mem_cons.mp member with rfl | later
  · exact (single first List.mem_cons_self).of_subset (trimEnd_subset first)
  · obtain ⟨line, there, rfl⟩ := exists_trimEnd_of_mem_closeGaps later
    exact (single line (List.mem_cons_of_mem _ there)).of_subset (trimEnd_subset line)

/-- The lines of a tidy text are lines of the text without white space at their ends. -/
theorem exists_trimEnd_of_mem_lines_tidy {text : Text} (member : row ∈ lines (tidy text)) :
    ∃ line ∈ lines text, row = trimEnd line := by
  obtain ⟨first, rows, cut⟩ := List.exists_cons_of_ne_nil (lines_ne_nil text)
  rw [lines_tidy cut] at member
  rw [cut]
  rcases List.mem_cons.mp member with same | later
  · exact ⟨first, List.mem_cons_self, same⟩
  · obtain ⟨line, there, same⟩ := exists_trimEnd_of_mem_closeGaps later
    exact ⟨line, List.mem_cons_of_mem _ there, same⟩

/-! ## Which lines are dropped -/

/-- Whether the line at a place is dropped: it is not the first, it is blank, and the next line that
is not blank is there and holds a closing brace only. -/
def isLoose (rows : List Text) (place : Nat) : Bool :=
  decide (0 < place) && (rows[place]?).any isBlank && braceNext (rows.drop place)

/-- Looking ahead keeps, of the lines from a place on, those that are not loose. -/
theorem closeGaps_eq_map_filter {all : List Text} {place : Nat} (below : 0 < place)
    (behind : all.drop place = rows) :
    closeGaps rows =
      ((rows.zipIdx place).filter (fun line => !isLoose all line.2)).map
        (fun line => trimEnd line.1) := by
  induction rows generalizing place with
  | nil => rfl
  | cons row rows ih =>
    have here : all[place]? = some row := by rw [← List.head?_drop, behind, List.head?_cons]
    have later : all.drop (place + 1) = rows := by rw [← List.tail_drop, behind, List.tail_cons]
    have loose : isLoose all place = (isBlank row && braceNext (row :: rows)) := by
      rw [isLoose, here, behind, decide_eq_true below, Bool.true_and, Option.any_some]
    rw [List.zipIdx_cons, List.filter_cons, loose]
    cases blank : isBlank row with
    | true =>
      rw [closeGaps_cons_of_isBlank blank, braceNext_cons_of_isBlank blank, ih (by omega) later,
        Bool.true_and]
      cases braceNext rows with
      | true => rfl
      | false =>
        rw [Bool.not_false, if_pos rfl, if_neg Bool.false_ne_true, List.map_cons,
          trimEnd_eq_nil_iff.mpr blank]
    | false =>
      rw [closeGaps_cons_of_content blank, ih (by omega) later]
      rfl

/-- Of the lines that are not blank none is dropped. -/
theorem filter_closeGaps (rows : List Text) :
    (closeGaps rows).filter (fun row => !isBlank row) =
      (rows.filter (fun row => !isBlank row)).map trimEnd := by
  induction rows with
  | nil => rfl
  | cons row rows ih =>
    cases blank : isBlank row with
    | true =>
      rw [List.filter_cons_of_neg (by simp [blank]), ← ih, closeGaps_cons_of_isBlank blank]
      split
      · rfl
      · exact List.filter_cons_of_neg (by simp)
    | false =>
      rw [closeGaps_cons_of_content blank, List.filter_cons_of_pos (by simp [isBlank_trimEnd, blank]),
        List.filter_cons_of_pos (by simp [blank]), ih, List.map_cons]

/-- Tidying trims each line at its end and drops the loose ones, so no line that is not blank is
lost, and none comes in or changes places. -/
theorem lines_tidy_eq_filter (text : Text) :
    lines (tidy text) =
      ((lines text).zipIdx.filter (fun line => !isLoose (lines text) line.2)).map
        (fun line => trimEnd line.1) ∧
    (lines (tidy text)).filter (fun row => !isBlank row) =
      ((lines text).filter (fun row => !isBlank row)).map trimEnd := by
  obtain ⟨first, rows, cut⟩ := List.exists_cons_of_ne_nil (lines_ne_nil text)
  have stays : isLoose (first :: rows) 0 = false := rfl
  have later : (first :: rows).drop 1 = rows := rfl
  rw [lines_tidy cut, cut]
  constructor
  · rw [List.zipIdx_cons, List.filter_cons_of_pos (by rw [stays]; rfl), List.map_cons,
      closeGaps_eq_map_filter Nat.one_pos later]
  · rw [List.filter_cons, List.filter_cons, filter_closeGaps, isBlank_trimEnd]
    split <;> rfl

/-! ## Tidy texts -/

/-- Lines with nothing left to tidy. -/
structure IsTidy (rows : List Text) : Prop where
  /-- No line has white space at its end. -/
  tight : ∀ row ∈ rows, trimEnd row = row
  /-- An empty line right above a closing brace has no line above it. -/
  joined : ∀ above brace below, rows = above ++ [] :: brace :: below → trim brace = ['}'] → above = []

theorem braceNext_closeGaps (rows : List Text) : braceNext (closeGaps rows) = braceNext rows := by
  have trimmed : ∀ row : Text, trim (trimEnd row) = trim row := fun row => by
    rw [trim, trimEnd_trimStart, trimEnd_trimEnd, ← trimEnd_trimStart, trim]
  rw [braceNext, braceNext, ← List.head?_filter, ← List.head?_filter, filter_closeGaps,
    List.head?_map, Option.any_map]
  simp only [trimmed]

theorem closeGaps_closeGaps (rows : List Text) : closeGaps (closeGaps rows) = closeGaps rows := by
  induction rows with
  | nil => rfl
  | cons row rows ih =>
    rw [closeGaps]
    split
    · exact ih
    · next stays =>
      rw [closeGaps, isBlank_trimEnd, braceNext_closeGaps, if_neg stays, ih, trimEnd_trimEnd]

theorem length_closeGaps_le (rows : List Text) : (closeGaps rows).length ≤ rows.length := by
  induction rows with
  | nil => exact Nat.le_refl _
  | cons row rows ih =>
    rw [closeGaps]
    split
    · exact ih.trans (Nat.le_succ _)
    · exact Nat.succ_le_succ ih

theorem closeGaps_cons_eq_self_iff :
    closeGaps (row :: rows) = row :: rows ↔
      ¬ (isBlank row && braceNext rows) = true ∧ trimEnd row = row ∧ closeGaps rows = rows := by
  rw [closeGaps]
  split
  · next loose =>
    have shorter : closeGaps rows ≠ row :: rows := by
      intro same
      have size := length_closeGaps_le rows
      rw [same, List.length_cons] at size
      omega
    exact ⟨fun same => absurd same shorter, fun stays => absurd loose stays.1⟩
  · next stays => rw [List.cons.injEq, and_iff_right stays]

/-- Where nothing is dropped, the next line that is not blank is a closing brace only if it is the
next line. -/
theorem braceNext_iff_of_closeGaps_eq_self (same : closeGaps rows = rows) :
    braceNext rows = true ↔ ∃ brace below, rows = brace :: below ∧ trim brace = ['}'] := by
  cases rows with
  | nil => simp [braceNext]
  | cons row rows =>
    simp only [List.cons.injEq, exists_and_right, exists_and_left]
    obtain ⟨stays, -, -⟩ := closeGaps_cons_eq_self_iff.mp same
    cases blank : isBlank row with
    | true =>
      rw [blank, Bool.true_and] at stays
      rw [braceNext_cons_of_isBlank blank]
      simp [stays, trim_of_isBlank blank]
    | false =>
      rw [braceNext_cons_of_content blank]
      simp

theorem closeGaps_eq_self_iff :
    closeGaps rows = rows ↔
      (∀ row ∈ rows, trimEnd row = row) ∧
        ∀ above brace below, rows = above ++ [] :: brace :: below → trim brace ≠ ['}'] := by
  induction rows with
  | nil => simp [closeGaps]
  | cons row rows ih =>
    rw [closeGaps_cons_eq_self_iff]
    constructor
    · rintro ⟨stays, here, same⟩
      obtain ⟨tight, apart⟩ := ih.mp same
      refine ⟨List.forall_mem_cons.mpr ⟨here, tight⟩, ?_⟩
      intro above brace below cut closes
      cases above with
      | nil =>
        obtain ⟨rfl, rest⟩ := List.cons.inj cut
        apply stays
        rw [isBlank_nil, Bool.true_and, braceNext_iff_of_closeGaps_eq_self same]
        exact ⟨brace, below, rest, closes⟩
      | cons first above => exact apart above brace below (List.cons.inj cut).2 closes
    · rintro ⟨tight, apart⟩
      obtain ⟨here, tightBelow⟩ := List.forall_mem_cons.mp tight
      have same : closeGaps rows = rows := by
        refine ih.mpr ⟨tightBelow, fun above brace below cut => ?_⟩
        exact apart (row :: above) brace below (by rw [cut, List.cons_append])
      refine ⟨fun loose => ?_, here, same⟩
      obtain ⟨blank, braces⟩ := (Bool.and_eq_true _ _).mp loose
      have empty : row = [] := by rw [← here, trimEnd_eq_nil_iff, blank]
      obtain ⟨brace, below, rest, closes⟩ := (braceNext_iff_of_closeGaps_eq_self same).mp braces
      exact apart [] brace below (by rw [empty, rest, List.nil_append]) closes

/-- A tidy text is not tidied further. -/
theorem tidy_tidy (text : Text) : tidy (tidy text) = tidy text := by
  obtain ⟨first, rows, cut⟩ := List.exists_cons_of_ne_nil (lines_ne_nil text)
  rw [← unlines_lines (tidy (tidy text)), lines_tidy (lines_tidy cut), trimEnd_trimEnd,
    closeGaps_closeGaps, ← lines_tidy cut, unlines_lines]

theorem tidy_eq_self_iff (text : Text) : tidy text = text ↔ IsTidy (lines text) := by
  obtain ⟨first, rows, cut⟩ := List.exists_cons_of_ne_nil (lines_ne_nil text)
  have lineByLine : tidy text = text ↔ trimEnd first :: closeGaps rows = first :: rows := by
    rw [← lines_tidy cut, ← cut]
    exact ⟨congrArg lines, fun same => by rw [← unlines_lines (tidy text), same, unlines_lines]⟩
  rw [lineByLine, List.cons.injEq, closeGaps_eq_self_iff, cut]
  constructor
  · rintro ⟨here, tight, apart⟩
    refine ⟨List.forall_mem_cons.mpr ⟨here, tight⟩, fun above brace below cut closes => ?_⟩
    cases above with
    | nil => rfl
    | cons top above => exact absurd closes (apart above brace below (List.cons.inj cut).2)
  · rintro ⟨tight, joined⟩
    obtain ⟨here, tightBelow⟩ := List.forall_mem_cons.mp tight
    refine ⟨here, tightBelow, fun above brace below cut closes => ?_⟩
    have none := joined (first :: above) brace below (by rw [cut, List.cons_append]) closes
    cases none

/-- Tidying a second time changes nothing, and the texts that it does not change at all are exactly
those with tidy lines. -/
theorem tidy_tidy_and_eq_self_iff (text : Text) :
    tidy (tidy text) = tidy text ∧ (tidy text = text ↔ IsTidy (lines text)) :=
  ⟨tidy_tidy text, tidy_eq_self_iff text⟩

end ParserRefresh.Tidy
