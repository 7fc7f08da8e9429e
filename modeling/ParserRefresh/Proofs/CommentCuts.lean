import ParserRefresh.Proofs.CommentBytes

/-! # Cut lines

Cutting a line can leave a string open, take the closing from a literal or part two slashes, so that
what stands at the end of the shorter line is read in another way. None of this hides a comment that
lies in front of the cut or makes one up: where a comment starts is settled by the text up to its
second slash. -/

namespace ParserRefresh

namespace Text

/-- A place between two characters of a text, or at an end of it, counted in bytes. -/
def BetweenCharacters (text : Text) (place : Nat) : Prop :=
  ∃ front, front <+: text ∧ (toUtf8 front).length = place

theorem toUtf8_length_le_of_isPrefix {front text : Text} (start : front <+: text) :
    (toUtf8 front).length ≤ (toUtf8 text).length := by
  obtain ⟨back, rfl⟩ := start
  rw [toUtf8_append, List.length_append]
  exact Nat.le_add_right _ _

/-- Of two starts of a text the one with fewer bytes is a start of the other. -/
theorem toUtf8_length_le_iff {first second text : Text} (start : first <+: text)
    (other : second <+: text) :
    (toUtf8 first).length ≤ (toUtf8 second).length ↔ first <+: second := by
  refine ⟨fun shorter => ?_, toUtf8_length_le_of_isPrefix⟩
  rcases List.prefix_or_prefix_of_prefix start other with within | ⟨rest, rfl⟩
  · exact within
  · rw [toUtf8_append, List.length_append] at shorter
    have empty : (toUtf8 rest).length = 0 := by omega
    rw [List.length_eq_zero_iff, toUtf8_eq_nil_iff] at empty
    exact ⟨[], by rw [empty, List.append_nil, List.append_nil]⟩

end Text

namespace Comments

open Text

variable {front back code comment : Text}

/-- A comment of a line is found on the shorter line exactly if both its slashes are left. -/
theorem isSome_split?_iff_of_append (found : split? (front ++ back) = some (code, comment)) :
    (split? front).isSome = true ↔ code ++ ['/', '/'] <+: front := by
  constructor
  · intro some
    obtain ⟨⟨earlier, start⟩, here⟩ := Option.isSome_iff_exists.mp some
    obtain ⟨reading, left, rfl⟩ := split?_eq_some_iff.mp here
    cases (splitFrom_append_right here back).symm.trans found
    exact ⟨left, by rw [← reading.append_eq, List.append_assoc]⟩
  · rintro ⟨left, rfl⟩
    cases here : split? (code ++ ['/', '/'] ++ left) with
    | some parts => rfl
    | none =>
      -- A comment that the line gains by going on has its second slash behind the cut.
      have size := length_le_of_splitFrom here found
      simp only [List.length_append, List.length_cons, List.length_nil] at size
      omega

/-- A shorter line is split behind the same code as the line, if at all. -/
theorem map_fst_split?_append (front back : Text) :
    (split? front).map Prod.fst =
      ((split? (front ++ back)).map Prod.fst).filter
        (fun code => (code ++ ['/', '/']).isPrefixOf front) := by
  cases found : split? (front ++ back) with
  | none =>
    cases here : split? front with
    | none => rfl
    | some parts =>
      rw [split?, splitFrom_append_right here back] at found
      cases found
  | some parts =>
    obtain ⟨code, comment⟩ := parts
    have left := isSome_split?_iff_of_append found
    rw [← List.isPrefixOf_iff_prefix] at left
    cases here : split? front with
    | none =>
      rw [here] at left
      rw [Option.map_some, Option.filter_some, if_neg (fun start => by cases left.mpr start)]
      rfl
    | some parts =>
      obtain ⟨earlier, start⟩ := parts
      have same := (splitFrom_append_right here back).symm.trans found
      cases same
      rw [here] at left
      rw [Option.map_some, Option.map_some, Option.filter_some, if_pos (left.mp rfl)]

namespace Bytes

/-- A comment whose slashes lie in front of a cut between characters. -/
theorem length_add_two_le_iff (found : split? (front ++ back) = some (code, comment)) :
    (toUtf8 code).length + 2 ≤ (toUtf8 front).length ↔ code ++ ['/', '/'] <+: front := by
  obtain ⟨reading, rest, rfl⟩ := split?_eq_some_iff.mp found
  have start : code ++ ['/', '/'] <+: front ++ back :=
    ⟨rest, by rw [← reading.append_eq, List.append_assoc]⟩
  have size : (toUtf8 (code ++ ['/', '/'])).length = (toUtf8 code).length + 2 := by
    rw [toUtf8_append, List.length_append]
    rfl
  rw [← toUtf8_length_le_iff start (List.prefix_append front back), size]

/-- Where a comment starts depends only on what precedes it: when a line is cut between two
characters, a comment that has both its slashes in front of the cut is found at the same place, and
no other comment is found. -/
theorem commentStart_take {line : Text} {cut : Nat} (between : BetweenCharacters line cut) :
    commentStart ((toUtf8 line).take cut) =
      (commentStart (toUtf8 line)).filter (fun place => place + 2 ≤ cut) := by
  obtain ⟨front, ⟨back, rfl⟩, rfl⟩ := between
  have shorter : (toUtf8 (front ++ back)).take (toUtf8 front).length = toUtf8 front := by
    rw [toUtf8_append, List.take_left]
  have places : ∀ text, commentStart (toUtf8 text) =
      ((split? text).map Prod.fst).map (fun code => (toUtf8 code).length) := fun text => by
    rw [commentStart_toUtf8, Option.map_map]
    rfl
  rw [shorter, places, places, map_fst_split?_append front back]
  cases found : split? (front ++ back) with
  | none => rfl
  | some parts =>
    obtain ⟨code, comment⟩ := parts
    have same := length_add_two_le_iff found
    rw [← List.isPrefixOf_iff_prefix] at same
    simp only [Option.map_some, Option.filter_some, decide_eq_true_eq, same]
    split <;> rfl

def quotedLine : Text := "é'\"'r#\"//\"#é// é".toList

/-- Cut inside of its raw string the line has no comment, and cut behind the second slash it has the
comment that it has as a whole. -/
theorem commentStart_take_quotedLine :
    BetweenCharacters quotedLine 9 ∧ BetweenCharacters quotedLine 16 ∧
      commentStart ((toUtf8 quotedLine).take 9) = none ∧
      commentStart ((toUtf8 quotedLine).take 16) = some 14 := by
  have inside : BetweenCharacters quotedLine 9 :=
    ⟨"é'\"'r#\"/".toList, by decide, by decide⟩
  have behind : BetweenCharacters quotedLine 16 :=
    ⟨"é'\"'r#\"//\"#é//".toList, by decide, by decide⟩
  have start : commentStart (toUtf8 quotedLine) = some 14 := by cbv
  refine ⟨inside, behind, ?_, ?_⟩
  · rw [commentStart_take inside, start]
    rfl
  · rw [commentStart_take behind, start]
    rfl

end Bytes

end Comments

end ParserRefresh
