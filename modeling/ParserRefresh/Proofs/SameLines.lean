import Mathlib.Data.List.Forall2
import ParserRefresh.Proofs.Lines
import ParserRefresh.Proofs.WhiteSpace

/-! # Texts whose lines differ at their ends

Two texts have the same lines when they have as many lines and agree line by line after trimming
the ends of the lines, so line breaks may be written with or without a carriage return. Each class
of such texts has one member without white space at the ends of its lines. -/

namespace ParserRefresh.Text

/-- Two texts that agree line by line, white space at the ends of the lines aside. -/
def SameLines (left right : Text) : Prop :=
  (lines left).map trimEnd = (lines right).map trimEnd

instance (left right : Text) : Decidable (SameLines left right) :=
  inferInstanceAs (Decidable ((lines left).map trimEnd = (lines right).map trimEnd))

theorem sameLines_iff_forall₂ {left right : Text} :
    SameLines left right ↔ List.Forall₂ SameEnd (lines left) (lines right) := by
  rw [SameLines, ← List.forall₂_eq_eq_eq, List.forall₂_map_left_iff, List.forall₂_map_right_iff]
  rfl

/-! ## Trimming all lines -/

def startsBlank : Text → Bool
  | [] => true
  | c :: text => c == '\n' || isSpace c && startsBlank text

def trimLines : Text → Text
  | [] => []
  | c :: text =>
    if c != '\n' && (isSpace c && startsBlank text) then trimLines text else c :: trimLines text

theorem lines_newline (text : Text) : lines ('\n' :: text) = [] :: lines text :=
  split_separator '\n' text

theorem lines_cons {c : Char} {text line : Text} {rest : List Text} (other : c ≠ '\n')
    (cut : lines text = line :: rest) : lines (c :: text) = (c :: line) :: rest := by
  obtain ⟨first, others, before, after⟩ := exists_split_cons other text
  have same := cut.symm.trans before
  cases same
  exact after

theorem exists_lines_eq_cons (text : Text) : ∃ line rest, lines text = line :: rest :=
  List.exists_cons_of_ne_nil (lines_ne_nil text)

theorem startsBlank_eq {text line : Text} {rest : List Text} (cut : lines text = line :: rest) :
    startsBlank text = isBlank line := by
  induction text generalizing line rest with
  | nil =>
    cases cut
    rfl
  | cons c text ih =>
    by_cases newline : c = '\n'
    · subst newline
      rw [lines_newline] at cut
      cases cut
      rfl
    · obtain ⟨first, others, before⟩ := exists_lines_eq_cons text
      rw [lines_cons newline before] at cut
      cases cut
      rw [startsBlank, ih before, isBlank_cons, beq_eq_false_iff_ne.mpr newline, Bool.false_or]

theorem lines_trimLines (text : Text) : lines (trimLines text) = (lines text).map trimEnd := by
  induction text with
  | nil => rfl
  | cons c text ih =>
    by_cases newline : c = '\n'
    · subst newline
      rw [trimLines, if_neg (by simp), lines_newline, lines_newline, ih]
      rfl
    · obtain ⟨line, rest, cut⟩ := exists_lines_eq_cons text
      rw [cut, List.map_cons] at ih
      rw [trimLines, startsBlank_eq cut, lines_cons newline cut, List.map_cons, trimEnd_cons,
        bne_iff_ne.mpr newline, Bool.true_and]
      split
      · next blank =>
        rw [ih, trimEnd_eq_nil_iff.mpr ((Bool.and_eq_true _ _).mp blank).2]
      · exact lines_cons newline ih

theorem sameLines_iff_trimLines {left right : Text} :
    SameLines left right ↔ trimLines left = trimLines right := by
  rw [SameLines, ← lines_trimLines, ← lines_trimLines]
  constructor
  · intro same
    rw [← unlines_lines (trimLines left), same, unlines_lines]
  · exact congrArg lines

/-! ## Trimming the text -/

theorem isBlank_trimLines (text : Text) : isBlank (trimLines text) = isBlank text := by
  induction text with
  | nil => rfl
  | cons c text ih =>
    rw [trimLines, isBlank_cons]
    split
    · next blank =>
      simp only [Bool.and_eq_true] at blank
      rw [ih, blank.2.1, Bool.true_and]
    · rw [isBlank_cons, ih]

theorem startsBlank_of_isBlank {text : Text} (blank : isBlank text = true) :
    startsBlank text = true := by
  induction text with
  | nil => rfl
  | cons c text ih =>
    rw [isBlank_cons, Bool.and_eq_true] at blank
    rw [startsBlank, blank.1, ih blank.2, Bool.true_and, Bool.or_true]

theorem startsBlank_trimEnd (text : Text) : startsBlank (trimEnd text) = startsBlank text := by
  induction text with
  | nil => rfl
  | cons c text ih =>
    rw [trimEnd_cons]
    split
    · next blank => exact (@startsBlank_of_isBlank (c :: text) blank).symm
    · rw [startsBlank, startsBlank, ih]

theorem trimLines_trimStart (text : Text) :
    trimLines (trimStart text) = trimStart (trimLines text) := by
  induction text with
  | nil => rfl
  | cons c text ih =>
    rw [trimStart_cons]
    split
    · next space =>
      rw [ih, trimLines]
      split
      · rfl
      · rw [trimStart_cons, if_pos space]
    · next content =>
      have stays : trimLines (c :: text) = c :: trimLines text := by
        rw [trimLines, Bool.eq_false_iff.mpr content, Bool.false_and, Bool.and_false,
          if_neg Bool.false_ne_true]
      rw [stays, trimStart_cons, if_neg content]

theorem trimLines_trimEnd (text : Text) : trimLines (trimEnd text) = trimEnd (trimLines text) := by
  induction text with
  | nil => rfl
  | cons c text ih =>
    rw [trimEnd_cons]
    split
    · next blank =>
      have nothing : trimEnd (trimLines (c :: text)) = [] := by
        rw [trimEnd_eq_nil_iff, isBlank_trimLines]
        exact blank
      exact nothing.symm
    · next content =>
      rw [trimLines, startsBlank_trimEnd, ih, trimLines]
      split
      · rfl
      · rw [trimEnd_cons, isBlank_trimLines, if_neg content]

/-! ## Putting texts together -/

namespace SameLines

variable {left right : Text}

theorem refl (text : Text) : SameLines text text := rfl

theorem trim (same : SameLines left right) : SameLines (Text.trim left) (Text.trim right) := by
  rw [sameLines_iff_trimLines] at same ⊢
  rw [Text.trim, Text.trim, trimLines_trimEnd, trimLines_trimEnd, trimLines_trimStart,
    trimLines_trimStart, same]

theorem cons (c : Char) (same : SameLines left right) : SameLines (c :: left) (c :: right) := by
  by_cases newline : c = '\n'
  · subst newline
    rw [SameLines, lines_newline, lines_newline]
    exact congrArg ([] :: ·) same
  · obtain ⟨line, rest, cut⟩ := exists_lines_eq_cons left
    obtain ⟨other, others, cut'⟩ := exists_lines_eq_cons right
    rw [sameLines_iff_forall₂, cut, cut'] at same
    rw [sameLines_iff_forall₂, lines_cons newline cut, lines_cons newline cut']
    cases same with
    | cons first later => exact .cons (first.cons c) later

theorem append_left (start : Text) (same : SameLines left right) :
    SameLines (start ++ left) (start ++ right) := by
  induction start with
  | nil => exact same
  | cons c start ih => exact ih.cons c

/-- Texts with the same lines, one below the other, make up texts with the same lines. -/
theorem unlines {rows others : List Text} (same : List.Forall₂ SameLines rows others) :
    SameLines (Text.unlines rows) (Text.unlines others) := by
  cases same with
  | nil => exact refl _
  | cons first rest =>
    rw [sameLines_iff_forall₂, lines_unlines_eq_flatMap (List.cons_ne_nil _ _),
      lines_unlines_eq_flatMap (List.cons_ne_nil _ _)]
    exact List.rel_flatMap (.cons first rest) (fun _ _ => sameLines_iff_forall₂.mp)

end SameLines

/-- Two lines that differ in the white space at their ends at most. -/
structure SameLine (left right : Text) : Prop where
  line : IsLine left
  other : IsLine right
  ends : SameEnd left right

theorem SameLine.sameLines {left right : Text} (same : SameLine left right) :
    SameLines left right := by
  rw [sameLines_iff_forall₂, lines_of_isLine same.line, lines_of_isLine same.other]
  exact .cons same.ends .nil

theorem SameLines.forall₂_lines {left right : Text} (same : SameLines left right) :
    List.Forall₂ SameLine (lines left) (lines right) := by
  have line : ∀ row ∈ lines left, IsLine row := fun _ => isLine_of_mem_lines
  have other : ∀ row ∈ lines right, IsLine row := fun _ => isLine_of_mem_lines
  have ends := sameLines_iff_forall₂.mp same
  generalize lines left = rows at line ends ⊢
  generalize lines right = others at other ends ⊢
  induction ends with
  | nil => exact .nil
  | @cons row next rows others first _ ih =>
    refine .cons ⟨line row List.mem_cons_self, other next List.mem_cons_self, first⟩ ?_
    exact ih (fun row there => line row (List.mem_cons_of_mem _ there))
      (fun row there => other row (List.mem_cons_of_mem _ there))

theorem SameLines.unlines_of_forall₂ {rows others : List Text}
    (same : List.Forall₂ SameLine rows others) :
    SameLines (Text.unlines rows) (Text.unlines others) :=
  .unlines (same.imp (fun _ _ => SameLine.sameLines))

end ParserRefresh.Text
