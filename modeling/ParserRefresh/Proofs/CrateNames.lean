import ParserRefresh.Proofs.WhiteSpace
import ParserRefresh.Source.CrateAttributes

/-! # Names of crate attributes

A name of a crate attribute ends at the boundary of a word. White space is no part of a word, so
what it covers does not depend on the white space at the end of a line. -/

namespace ParserRefresh

namespace Text

theorem wordRanges_apart :
    wordRanges.toList.all (fun range =>
      spaceCodes.all (fun code => code.blt range.1 || range.2.blt code)) = true := by
  decide +kernel

/-- White space is no part of a word. -/
theorem isWord_of_isSpace {c : Char} (space : isSpace c = true) : isWord c = false := by
  rw [isWord, isIn, ← Array.any_toList, List.any_eq_false]
  intro range member
  have apart := List.all_eq_true.mp (List.all_eq_true.mp wordRanges_apart range member) c.toNat
    (toNat_mem_spaceCodes space)
  simp only [Bool.or_eq_true, Nat.blt_eq] at apart
  simp only [Bool.and_eq_true, decide_eq_true_eq]
  omega

theorem any_isWord_append {blank : Text} (space : isBlank blank = true) (text : Text) :
    (text ++ blank).head?.any isWord = text.head?.any isWord := by
  cases text with
  | cons c text => rfl
  | nil =>
    cases blank with
    | nil => rfl
    | cons c blank =>
      rw [isBlank_cons, Bool.and_eq_true] at space
      rw [List.nil_append, List.head?_cons, Option.any_some, isWord_of_isSpace space.1]
      rfl

end Text

namespace CrateAttributes

open Text

/-- Whether a name stands right at the start of the text and ends at the boundary of a word;
`before` is the character in front of the text. -/
def standsAt (name : Text) (before : Char) (text : Text) : Bool :=
  match after? name text with
  | some rest => isBoundary (name.getLast?.getD before) rest.head?
  | none => false

theorem namedAt_nil (name : Text) (before : Char) :
    namedAt name before [] = standsAt name before [] := rfl

theorem namedAt_cons (name : Text) (before c : Char) (text : Text) :
    namedAt name before (c :: text) =
      (standsAt name before (c :: text) || (isSpace c && namedAt name c text)) := rfl

/-- A name that goes on in the white space at the end ends in white space itself, and so at no
boundary. -/
theorem standsAt_append {blank : Text} (space : isBlank blank = true) (name : Text) (before : Char)
    (text : Text) : standsAt name before (text ++ blank) = standsAt name before text := by
  unfold standsAt
  cases here : after? name text with
  | some rest =>
    have longer : after? name (text ++ blank) = some (rest ++ blank) := by
      rw [after?_eq_some_iff] at here ⊢
      rw [here, List.append_assoc]
    rw [longer]
    dsimp only
    rw [isBoundary, isBoundary, any_isWord_append space]
  | none =>
    cases later : after? name (text ++ blank) with
    | none => rfl
    | some rest =>
      rcases List.append_eq_append_iff.mp (after?_eq_some_iff.mp later) with
        ⟨beyond, parts, behind⟩ | ⟨beyond, parts, -⟩
      · rw [behind, isBlank_append, Bool.and_eq_true] at space
        have last : isWord (name.getLast?.getD before) = false := by
          cases beyond using List.reverseRecOn with
          | nil =>
            rw [parts, List.append_nil, after?_eq_some_iff.mpr (List.append_nil text).symm] at here
            cases here
          | append_singleton beyond c =>
            have ends : isSpace c = true := isBlank_iff.mp space.1 c (by simp)
            rw [parts, ← List.append_assoc, List.getLast?_concat]
            exact isWord_of_isSpace ends
        have next : rest.head?.any isWord = false := any_isWord_append space.2 []
        dsimp only
        rw [isBoundary, last, next]
        rfl
      · rw [after?_eq_some_iff.mpr parts] at here
        cases here

theorem standsAt_nil {before : Char} (space : isSpace before = true) (name : Text) :
    standsAt name before [] = false := by
  cases name with
  | nil =>
    change isBoundary before none = false
    rw [isBoundary, isWord_of_isSpace space]
    rfl
  | cons c name => rfl

theorem namedAt_append {blank : Text} (space : isBlank blank = true) (name : Text) (before : Char)
    (text : Text) : namedAt name before (text ++ blank) = namedAt name before text := by
  induction text generalizing before with
  | cons c text ih =>
    rw [List.cons_append, namedAt_cons, namedAt_cons, ih, ← List.cons_append, standsAt_append space]
  | nil =>
    rw [List.nil_append, namedAt_nil]
    induction blank generalizing before with
    | nil => rfl
    | cons c blank ih =>
      have stands := standsAt_append space name before []
      rw [isBlank_cons, Bool.and_eq_true] at space
      rw [List.nil_append] at stands
      rw [namedAt_cons, stands, ih space.2, standsAt_nil space.1, Bool.and_false, Bool.or_false]

theorem covers_append {blank : Text} (space : isBlank blank = true) (filter : CrateAttributes)
    (line : Text) : filter.covers (line ++ blank) = filter.covers line := by
  unfold covers
  cases here : after? "#![".toList line with
  | some rest =>
    have longer : after? "#![".toList (line ++ blank) = some (rest ++ blank) := by
      rw [after?_eq_some_iff] at here ⊢
      rw [here, List.append_assoc]
    rw [longer]
    dsimp only
    simp only [namedAt_append space]
  | none =>
    cases later : after? "#![".toList (line ++ blank) with
    | none => rfl
    | some rest =>
      have ends : SameEnd (line ++ blank) line := trimEnd_append_of_isBlank line space
      have start : "#![".toList.isPrefixOf (line ++ blank) = true :=
        List.isPrefixOf_iff_prefix.mpr ⟨rest, (after?_eq_some_iff.mp later).symm⟩
      rw [ends.isPrefixOf_eq _ (by decide)] at start
      obtain ⟨behind, whole⟩ := List.isPrefixOf_iff_prefix.mp start
      rw [after?_eq_some_iff.mpr whole.symm] at here
      cases here

theorem covers_eq (filter : CrateAttributes) {left right : Text} (same : SameEnd left right) :
    filter.covers left = filter.covers right := by
  obtain ⟨gap, space, whole⟩ := exists_trimEnd_append left
  obtain ⟨other, spaces, twin⟩ := exists_trimEnd_append right
  rw [← whole, ← twin, covers_append space, covers_append spaces, same]

end CrateAttributes

end ParserRefresh
