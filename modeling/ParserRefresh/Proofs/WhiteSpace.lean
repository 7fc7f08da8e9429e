import Mathlib.Data.List.DropRight
import ParserRefresh.Text.Indent

/-! # Laws of trimming

Trimming at the end leaves a start of the text that is followed by white space only, so what is
put in front of a text that is not blank, and white space that is put behind it, can be moved out
of it. Two texts have the same end when they differ in white space at their ends at most. -/

namespace ParserRefresh.Text

theorem isBlank_iff {text : Text} : isBlank text = true ↔ ∀ c ∈ text, isSpace c = true :=
  List.all_eq_true

@[simp] theorem isBlank_nil : isBlank [] = true := rfl

@[simp] theorem isBlank_cons (c : Char) (text : Text) :
    isBlank (c :: text) = (isSpace c && isBlank text) := rfl

@[simp] theorem isBlank_append (left right : Text) :
    isBlank (left ++ right) = (isBlank left && isBlank right) := List.all_append

def spaceCodes : List Nat :=
  [9, 10, 11, 12, 13, 0x20, 0x85, 0xA0, 0x1680, 0x2000, 0x2001, 0x2002, 0x2003, 0x2004, 0x2005,
    0x2006, 0x2007, 0x2008, 0x2009, 0x200A, 0x2028, 0x2029, 0x202F, 0x205F, 0x3000]

theorem toNat_mem_spaceCodes {c : Char} (space : isSpace c = true) : c.toNat ∈ spaceCodes := by
  simp only [isSpace, Bool.or_eq_true, Bool.and_eq_true, decide_eq_true_eq, beq_iff_eq] at space
  simp only [spaceCodes, List.mem_cons, List.not_mem_nil, or_false]
  omega

/-- What holds of each of these code points holds of white space. -/
theorem forall_isSpace {p : Char → Bool}
    (all : ∀ code ∈ spaceCodes, p (Char.ofNat code) = true) {c : Char} (space : isSpace c = true) :
    p c = true := by
  have found := all c.toNat (toNat_mem_spaceCodes space)
  rwa [Char.ofNat_toNat] at found

theorem isSpace_of_isIndent {c : Char} (indent : isIndent c = true) : isSpace c = true := by
  simp only [isIndent, Bool.or_eq_true, beq_iff_eq] at indent
  rcases indent with rfl | rfl <;> decide

theorem isBlank_leading (line : Text) : isBlank (leading line) = true :=
  isBlank_iff.mpr (fun _ member => isSpace_of_isIndent (List.mem_takeWhile_imp member))

theorem trimEnd_eq_rdropWhile (text : Text) : trimEnd text = text.rdropWhile isSpace := rfl

@[simp] theorem trimEnd_nil : trimEnd [] = [] := rfl

theorem trimEnd_eq_nil_iff {text : Text} : trimEnd text = [] ↔ isBlank text = true := by
  rw [trimEnd_eq_rdropWhile, List.rdropWhile_eq_nil_iff, isBlank_iff]

theorem trimEnd_append (left right : Text) :
    trimEnd (left ++ right) = if isBlank right then trimEnd left else left ++ trimEnd right := by
  have dropped : (right.reverse.dropWhile isSpace).isEmpty = isBlank right := by
    rw [Bool.eq_iff_iff, List.isEmpty_iff, List.dropWhile_eq_nil_iff, isBlank_iff]
    simp
  rw [trimEnd, List.reverse_append, List.dropWhile_append, dropped]
  split
  · rfl
  · rw [List.reverse_append, List.reverse_reverse]
    rfl

theorem trimEnd_append_of_content (left : Text) {right : Text} (content : isBlank right = false) :
    trimEnd (left ++ right) = left ++ trimEnd right := by
  rw [trimEnd_append, content, if_neg Bool.false_ne_true]

theorem trimEnd_cons (c : Char) (text : Text) :
    trimEnd (c :: text) = if isSpace c && isBlank text then [] else c :: trimEnd text := by
  rw [← List.singleton_append, trimEnd_append]
  cases blank : isBlank text with
  | false => simp
  | true =>
    rw [trimEnd_eq_nil_iff.mpr blank]
    cases space : isSpace c <;> simp [trimEnd, space]

theorem trimEnd_append_of_isBlank (left : Text) {right : Text} (blank : isBlank right = true) :
    trimEnd (left ++ right) = trimEnd left := by
  rw [trimEnd_append, if_pos blank]

theorem trimEnd_isPrefix (text : Text) : trimEnd text <+: text :=
  List.rdropWhile_prefix _ _

theorem trimEnd_subset (text : Text) : trimEnd text ⊆ text :=
  (trimEnd_isPrefix text).subset

/-- What is cut off at the end is white space. -/
theorem exists_trimEnd_append (text : Text) :
    ∃ blank, isBlank blank = true ∧ trimEnd text ++ blank = text :=
  ⟨text.rtakeWhile isSpace, isBlank_iff.mpr (fun _ member => List.mem_rtakeWhile_imp member),
    List.rdropWhile_append_rtakeWhile⟩

theorem isBlank_trimEnd (text : Text) : isBlank (trimEnd text) = isBlank text := by
  obtain ⟨blank, space, whole⟩ := exists_trimEnd_append text
  rw [← congrArg isBlank whole, isBlank_append, space, Bool.and_true]

@[simp] theorem trimEnd_trimEnd (text : Text) : trimEnd (trimEnd text) = trimEnd text :=
  List.rdropWhile_idempotent _ _

theorem trimStart_eq_nil_iff {text : Text} : trimStart text = [] ↔ isBlank text = true := by
  rw [trimStart, List.dropWhile_eq_nil_iff, isBlank_iff]

theorem trimStart_subset (text : Text) : trimStart text ⊆ text :=
  (List.dropWhile_sublist _).subset

theorem trimStart_append_of_isBlank {left : Text} (blank : isBlank left = true) (right : Text) :
    trimStart (left ++ right) = trimStart right :=
  List.dropWhile_append_of_pos (isBlank_iff.mp blank)

theorem takeWhile_append_cons {α : Type} {p : α → Bool} {start rest : List α} {c : α}
    (start_holds : ∀ d ∈ start, p d = true) (stops : p c = false) :
    (start ++ c :: rest).takeWhile p = start := by
  rw [List.takeWhile_append_of_pos start_holds, List.takeWhile_cons, stops]
  simp

theorem dropWhile_append_cons {α : Type} {p : α → Bool} {start rest : List α} {c : α}
    (start_holds : ∀ d ∈ start, p d = true) (stops : p c = false) :
    (start ++ c :: rest).dropWhile p = c :: rest := by
  rw [List.dropWhile_append_of_pos start_holds, List.dropWhile_cons, stops]
  rfl

/-- A text is cut in one place only into characters of a kind and a rest that starts with none. -/
theorem append_cons_inj {p : Char → Bool} {left right rest more : Text} {c d : Char}
    (left_holds : ∀ e ∈ left, p e = true) (stops : p c = false)
    (right_holds : ∀ e ∈ right, p e = true) (stops' : p d = false)
    (same : left ++ c :: rest = right ++ d :: more) : left = right ∧ c :: rest = d :: more := by
  have taken := congrArg (List.takeWhile p) same
  rw [takeWhile_append_cons left_holds stops, takeWhile_append_cons right_holds stops'] at taken
  rw [taken] at same
  exact ⟨taken, List.append_cancel_left same⟩

theorem trimStart_append_cons {gap rest : Text} {c : Char} (space : isBlank gap = true)
    (content : isSpace c = false) : trimStart (gap ++ c :: rest) = c :: rest :=
  dropWhile_append_cons (isBlank_iff.mp space) content

theorem trimStart_cons (c : Char) (text : Text) :
    trimStart (c :: text) = if isSpace c then trimStart text else c :: text := by
  rw [trimStart, List.dropWhile_cons]
  rfl

/-- It does not matter which end is trimmed first. -/
theorem trimEnd_trimStart (text : Text) : trimEnd (trimStart text) = trimStart (trimEnd text) := by
  induction text with
  | nil => rfl
  | cons c text ih =>
    rw [trimStart_cons, trimEnd_cons]
    cases space : isSpace c with
    | false => simp [trimEnd_cons, trimStart_cons, space]
    | true =>
      cases blank : isBlank text with
      | false => simp [trimStart_cons, space, ih]
      | true =>
        change trimEnd (trimStart text) = []
        rw [trimStart_eq_nil_iff.mpr blank]
        rfl

theorem trim_append_of_isBlank {left : Text} (blank : isBlank left = true) (right : Text) :
    trim (left ++ right) = trim right := by
  rw [trim, trimStart_append_of_isBlank blank, trim]

theorem trim_of_isBlank {text : Text} (blank : isBlank text = true) : trim text = [] := by
  rw [trim, trimStart_eq_nil_iff.mpr blank]
  rfl

theorem trim_indentLine {indent : Text} (space : isBlank indent = true) (row : Text) :
    trim (indentLine indent row) = trim row := by
  unfold indentLine
  cases blank : isBlank row with
  | true => rw [if_pos rfl, trim_of_isBlank blank, trim_of_isBlank isBlank_nil]
  | false => rw [if_neg Bool.false_ne_true, trim_append_of_isBlank space]

theorem leading_cons (c : Char) (line : Text) :
    leading (c :: line) = if isIndent c then c :: leading line else [] := by
  rw [leading, List.takeWhile_cons]
  rfl

/-- The indentation of a line that is not blank stands in front of its end. -/
theorem leading_trimEnd {line : Text} (content : isBlank line = false) :
    leading (trimEnd line) = leading line := by
  induction line with
  | nil => rfl
  | cons c line ih =>
    rw [isBlank_cons] at content
    rw [trimEnd_cons, content, if_neg Bool.false_ne_true, leading_cons, leading_cons]
    cases indent : isIndent c with
    | false => rfl
    | true =>
      rw [isSpace_of_isIndent indent, Bool.true_and] at content
      rw [ih content]

/-- A text that does not end in white space starts a text when it starts what is left of it after
trimming its end. -/
theorem isPrefixOf_trimEnd {start : Text} (tight : trimEnd start = start) (text : Text) :
    start.isPrefixOf (trimEnd text) = start.isPrefixOf text := by
  rw [Bool.eq_iff_iff, List.isPrefixOf_iff_prefix, List.isPrefixOf_iff_prefix]
  constructor
  · intro found
    exact found.trans (trimEnd_isPrefix text)
  · rintro ⟨rest, rfl⟩
    rw [trimEnd_append]
    split
    · simp only [tight, List.prefix_rfl]
    · exact List.prefix_append _ _

/-- Two texts that differ in the white space at their ends at most. -/
def SameEnd (left right : Text) : Prop := trimEnd left = trimEnd right

namespace SameEnd

variable {left right : Text}

theorem refl (text : Text) : SameEnd text text := rfl

theorem isBlank_eq (same : SameEnd left right) : isBlank left = isBlank right := by
  rw [← isBlank_trimEnd left, same, isBlank_trimEnd]

theorem trim_eq (same : SameEnd left right) : trim left = trim right := by
  rw [trim, trim, trimEnd_trimStart, trimEnd_trimStart, same]

theorem trimStart (same : SameEnd left right) :
    SameEnd (Text.trimStart left) (Text.trimStart right) := by
  rw [SameEnd, trimEnd_trimStart, trimEnd_trimStart, same]

theorem cons (c : Char) (same : SameEnd left right) : SameEnd (c :: left) (c :: right) := by
  rw [SameEnd, trimEnd_cons, trimEnd_cons, same.isBlank_eq, same]

theorem leading_eq (same : SameEnd left right) (content : isBlank left = false) :
    leading left = leading right := by
  rw [← leading_trimEnd content, same, leading_trimEnd (same.isBlank_eq ▸ content)]

theorem isPrefixOf_eq (same : SameEnd left right) (start : Text) (tight : trimEnd start = start) :
    start.isPrefixOf left = start.isPrefixOf right := by
  rw [← isPrefixOf_trimEnd tight left, same, isPrefixOf_trimEnd tight]

end SameEnd

end ParserRefresh.Text
