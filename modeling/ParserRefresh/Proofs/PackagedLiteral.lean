import Mathlib.Data.List.Infix
import ParserRefresh.Proofs.WhiteSpace
import ParserRefresh.Source.Package

/-! # The packaged text read back

A raw string with three hashes ends at the first quote that three hashes follow. The constant that
holds a prelude, read in this way, gives the text back exactly when there was nothing to warn
about. Of the terminator only the first character is a quote, so no quote at the end of the text
becomes one together with what is put behind it. -/

namespace ParserRefresh

namespace Text

variable {c : Char} {tail left right front rest : Text}

theorem occursIn_eq_true_iff (part text : Text) : occursIn part text = true ↔ part <:+: text := by
  induction text with
  | nil => rw [occursIn, List.isEmpty_iff, List.infix_nil]
  | cons c text ih =>
    rw [occursIn, Bool.or_eq_true, List.isPrefixOf_iff_prefix, ih, List.infix_cons_iff]

/-- A word does not start in a text that lacks its first character. -/
theorem infix_append_iff_of_notMem (outside : c ∉ left) :
    c :: tail <:+: left ++ right ↔ c :: tail <:+: right := by
  induction left with
  | nil => rfl
  | cons d left ih =>
    rw [List.mem_cons, not_or] at outside
    obtain ⟨other, later⟩ := outside
    have notHere : ¬ c :: tail <+: d :: (left ++ right) :=
      fun start => other (List.cons_prefix_cons.mp start).1
    rw [List.cons_append, List.infix_cons_iff, ih later, or_iff_right notHere]

/-- A word whose first character does not come back in it stands first where it is put behind a text
exactly when it does not stand in the text already. -/
theorem dropInfix?_append_iff (once : c ∉ tail) :
    (front ++ c :: tail ++ rest).dropInfix? (c :: tail) = some (front, rest) ↔
      ¬ c :: tail <:+: front := by
  rw [List.dropInfix?_eq_some_iff]
  constructor
  · rintro ⟨-, least⟩ ⟨left, right, whole⟩
    have early := least left (c :: tail) (right ++ c :: tail ++ rest)
      (by rw [← whole]; simp only [List.append_assoc]) BEq.rfl
    have size := congrArg List.length whole
    simp only [List.length_append, List.length_cons] at size
    omega
  · intro never
    refine ⟨⟨c :: tail, rfl, BEq.rfl⟩, ?_⟩
    intro left word right whole same
    obtain rfl := eq_of_beq same
    by_contra shorter
    -- The earlier word starts in the front, and would end there or begin again inside of itself.
    have inFront : left <+: front := by
      have starts : left <+: front ++ c :: tail ++ rest := by
        rw [whole, List.append_assoc]
        exact List.prefix_append _ _
      have begun : front <+: front ++ c :: tail ++ rest := by
        rw [List.append_assoc]
        exact List.prefix_append _ _
      exact List.prefix_of_prefix_length_le starts begun (by omega)
    obtain ⟨more, rfl⟩ := inFront
    simp only [List.append_assoc, List.append_cancel_left_eq] at whole
    rcases List.append_eq_append_iff.mp whole with ⟨excess, cut, again⟩ | ⟨excess, inside, -⟩
    · cases excess with
      | nil =>
        rw [List.append_nil] at cut
        exact never ⟨left, [], by rw [cut, List.append_nil]⟩
      | cons d excess =>
        obtain rfl := (List.cons.inj again).1
        cases more with
        | nil => simp at shorter
        | cons e more =>
          have twice : c ∈ tail := by
            rw [(List.cons.inj cut).2]
            exact List.mem_append_right _ List.mem_cons_self
          exact once twice
    · exact never ⟨left, excess, by rw [inside, List.append_assoc]⟩

end Text

namespace Package

/-- The start of the constant, up to the text of its literal. -/
def declaration : Text := "pub static PRELUDE : &'static str = r###\"".toList

def preamble : Text := "#![allow(dead_code)]\n\n".toList

def headerLength : Option Text → Nat
  | none => 0
  | some header => if Text.isBlank header then 0 else (Text.trimEnd header).length + 1

/-- Reads a constant below a header: what its literal holds, up to the first terminator, and what
stands behind that. -/
def readBack (header : Option Text) (constant : Text) : Option (Text × Text) :=
  (Text.after? declaration (constant.drop (headerLength header))).bind
    (fun literal => literal.dropInfix? terminator)

theorem drop_headerLength (header : Option Text) (constant : Text) :
    (headerLines header ++ constant).drop (headerLength header) = constant := by
  have size : (headerLines header).length = headerLength header := by
    cases header with
    | none => rfl
    | some header =>
      rw [headerLines, headerLength]
      split
      · rfl
      · rw [List.length_append, List.length_singleton]
  rw [← size, List.drop_left]

theorem readBack_wrap (header : Option Text) (text : Text) :
    readBack header (wrap header text) =
      ((preamble ++ text) ++ terminator ++ ";\n".toList).dropInfix? terminator := by
  have parts : wrap header text =
      headerLines header ++ (declaration ++ ((preamble ++ text) ++ terminator ++ ";\n".toList)) := by
    have front : opening = declaration ++ preamble := by decide
    have back : closing = terminator ++ ";\n".toList := by decide
    rw [wrap, front, back]
    simp only [List.append_assoc]
  rw [readBack, parts, drop_headerLength, Text.after?_eq_some_iff.mpr rfl, Option.bind_some]

theorem rawTerminator_mem_warnings_iff (text : Text) :
    Warning.rawTerminator ∈ warnings text ↔ terminator <:+: text := by
  rw [warnings, ← Text.occursIn_eq_true_iff]
  split
  · next there => simp [there]
  · next never => simp [never]

/-- The packaged constant reads back as the preamble and the text, with the end of the item behind
its literal, exactly when packaging the text gives no warning about the terminator. -/
theorem readBack_package_iff (header : Option Text) (text : Text) :
    ∃ constant, (package header text).result = .ok constant ∧
      (readBack header constant = some (preamble ++ text, ";\n".toList) ↔
        Warning.rawTerminator ∉ (package header text).warnings) := by
  have noQuote : '"' ∉ preamble := by decide
  have once : '"' ∉ "###".toList := by decide
  have quoted : terminator = '"' :: "###".toList := by decide
  refine ⟨wrap header text, rfl, ?_⟩
  rw [readBack_wrap, package, rawTerminator_mem_warnings_iff, quoted, Text.dropInfix?_append_iff once,
    Text.infix_append_iff_of_notMem noQuote]

end Package

end ParserRefresh
