import ParserRefresh.Path

/-! # The directory of a path is written shorter

Taking the directory removes at least one character, so going up from a path comes to an end. -/

namespace ParserRefresh

namespace Path

theorem headAndBody_append (text : Text) : (headAndBody text).1 ++ (headAndBody text).2 = text := by
  unfold headAndBody
  split <;> simp

theorem length_join_le_append (start more : List Text) :
    (Text.join '/' start).length ≤ (Text.join '/' (start ++ more)).length := by
  induction start with
  | nil => simp [Text.join]
  | cons part start ih =>
    rw [List.cons_append]
    cases start with
    | nil =>
      cases more with
      | nil => simp
      | cons next more => simp [Text.join]
    | cons next start =>
      rw [Text.join_cons part (by simp), Text.join_cons part (by simp)]
      simp only [List.length_append, List.length_cons] at ih ⊢
      omega

theorem length_join_lt_append (start : List Text) {last : Text} (name : last ≠ []) :
    (Text.join '/' start).length < (Text.join '/' (start ++ [last])).length := by
  induction start with
  | nil => simpa [Text.join] using List.length_pos_iff.mpr name
  | cons part start ih =>
    rw [List.cons_append]
    cases start with
    | nil => simp [Text.join]
    | cons next start =>
      rw [Text.join_cons part (by simp), Text.join_cons part (by simp)]
      simp only [List.length_append, List.length_cons] at ih ⊢
      omega

/-- A list is its part without the idle parts at the end, followed by them. -/
theorem dropIdleEnd_append (parts : List Text) : ∃ idle, dropIdleEnd parts ++ idle = parts := by
  refine ⟨(parts.reverse.takeWhile isIdle).reverse, ?_⟩
  rw [dropIdleEnd, ← List.reverse_append, List.takeWhile_append_dropWhile, List.reverse_reverse]

/-- The last part that is not idle is no empty one. -/
theorem ne_nil_of_dropIdleEnd {parts start : List Text} {last : Text}
    (content : dropIdleEnd parts = start ++ [last]) : last ≠ [] := by
  intro empty
  have head : (parts.reverse.dropWhile isIdle).head? = some last := by
    have reversed := congrArg List.reverse content
    simp only [dropIdleEnd, List.reverse_reverse, List.reverse_append, List.reverse_cons,
      List.reverse_nil, List.nil_append, List.singleton_append] at reversed
    simp [reversed]
  have busy := List.head?_dropWhile_not isIdle parts.reverse
  rw [head] at busy
  simp [empty, isIdle] at busy

/-- The directory of a path is written shorter than the path. -/
theorem length_parent?_lt {path parent : Path} (above : path.parent? = some parent) :
    parent.text.length < path.text.length := by
  have whole := headAndBody_append path.text
  unfold parent? at above
  revert above whole
  generalize headAndBody path.text = parts
  obtain ⟨head, body⟩ := parts
  intro above whole
  simp only at whole above
  rw [← whole]
  split at above
  · split at above
    · next dot => simp only [Option.some.injEq] at above; subst above; simp [dot]
    · simp at above
  · next last earlier content =>
    simp only [Option.some.injEq] at above
    subst above
    have content := congrArg List.reverse content
    simp only [List.reverse_reverse, List.reverse_cons] at content
    obtain ⟨idle, cut⟩ := dropIdleEnd_append (Text.split '/' body)
    obtain ⟨more, start⟩ := dropIdleEnd_append earlier.reverse
    have last := length_join_lt_append earlier.reverse (ne_nil_of_dropIdleEnd content)
    have back := length_join_le_append (dropIdleEnd earlier.reverse) more
    have on := length_join_le_append (dropIdleEnd (Text.split '/' body)) idle
    rw [cut, Text.join_split, content] at on
    rw [start] at back
    simp only [List.length_append]
    omega

end Path

end ParserRefresh
