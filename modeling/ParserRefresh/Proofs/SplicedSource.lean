import ParserRefresh.Proofs.RuleRegions

/-! # A source that has been spliced

A block that cannot close its region is found where it was put, so that splicing it a second time
changes nothing. Any other block closes the region early, and the source grows with each splice.

The source is trimmed before its rules are stripped for the prelude. Trimming cuts into the lines
around the region and not into the region, whose marker lines are not blank, so what is left of the
source without its rules is the same before and after a splice. -/

namespace ParserRefresh

open Text

/-! ## Trimming a text with lines that are not blank -/

namespace Text

theorem unlines_cons (row : Text) {rows : List Text} (some : rows ≠ []) :
    unlines (row :: rows) = row ++ '\n' :: unlines rows := join_cons row some

theorem isBlank_unlines_of_mem {rows : List Text} {row : Text} (member : row ∈ rows)
    (content : isBlank row = false) : isBlank (unlines rows) = false := by
  induction rows with
  | nil => cases member
  | cons first rows ih =>
    cases rows with
    | nil =>
      rw [← List.mem_singleton.mp member]
      exact content
    | cons next rows =>
      rw [unlines_cons first (List.cons_ne_nil _ _), isBlank_append, isBlank_cons]
      rcases List.mem_cons.mp member with rfl | later
      · rw [content, Bool.false_and]
      · rw [ih later, Bool.and_false, Bool.and_false]

theorem trimStart_append_of_content {left : Text} (content : isBlank left = false) (right : Text) :
    trimStart (left ++ right) = trimStart left ++ right := by
  have some : trimStart left ≠ [] := fun none => by
    rw [trimStart_eq_nil_iff, content] at none
    cases none
  rw [trimStart, List.dropWhile_append, if_neg (by simpa [trimStart] using some)]
  rfl

theorem trim_trimStart (text : Text) : trim (trimStart text) = trim text := by
  have space : isBlank (text.takeWhile isSpace) = true :=
    isBlank_iff.mpr (fun _ inside => List.mem_takeWhile_imp inside)
  have whole := trim_append_of_isBlank space (trimStart text)
  rwa [trimStart_eq_drop, eq_comm] at whole

theorem trim_trimEnd (text : Text) : trim (trimEnd text) = trim text :=
  SameEnd.trim_eq (trimEnd_trimEnd text)

/-- Trimming at the start takes lines away in front of the last one and cuts into the first that is
left. -/
theorem exists_lines_trimStart {before : List Text} {last : Text}
    (single : ∀ row ∈ before ++ [last], IsLine row) :
    ∃ kept final, lines (trimStart (unlines (before ++ [last]))) = kept ++ [final] ∧
      trim final = trim last ∧ ∀ row ∈ kept, ∃ source ∈ before, trim row = trim source := by
  induction before with
  | nil =>
    refine ⟨[], trimStart last, ?_, trim_trimStart last, List.forall_mem_nil _⟩
    exact lines_of_isLine ((single last List.mem_cons_self).of_subset (trimStart_subset last))
  | cons row before ih =>
    have later : ∀ row ∈ before ++ [last], IsLine row := fun other member =>
      single other (List.mem_cons_of_mem _ member)
    have whole : unlines (row :: before ++ [last]) = row ++ '\n' :: unlines (before ++ [last]) :=
      unlines_cons row (by simp)
    rw [whole]
    cases blank : isBlank row with
    | true =>
      obtain ⟨kept, final, cut, same, sources⟩ := ih later
      have space : isBlank (row ++ ['\n']) = true := by
        rw [isBlank_append, blank]
        rfl
      rw [List.append_cons, trimStart_append_of_isBlank space]
      refine ⟨kept, final, cut, same, fun other member => ?_⟩
      obtain ⟨source, there, trims⟩ := sources other member
      exact ⟨source, List.mem_cons_of_mem _ there, trims⟩
    | false =>
      have first : IsLine (trimStart row) :=
        (single row List.mem_cons_self).of_subset (trimStart_subset row)
      refine ⟨trimStart row :: before, last, ?_, rfl, fun other member => ?_⟩
      · rw [trimStart_append_of_content blank, lines_append_newline, lines_of_isLine first,
          lines_unlines (by simp) later]
        rfl
      · rcases List.mem_cons.mp member with rfl | there
        · exact ⟨row, List.mem_cons_self, trim_trimStart row⟩
        · exact ⟨other, List.mem_cons_of_mem _ there, rfl⟩

/-- Trimming at the end leaves the first line, its end aside. -/
theorem exists_lines_trimEnd {first : Text} (rest : List Text) (single : IsLine first) :
    ∃ head tail, lines (trimEnd (unlines (first :: rest))) = head :: tail ∧
      trim head = trim first := by
  have line : lines (trimEnd first) = [trimEnd first] :=
    lines_of_isLine (single.of_subset (trimEnd_subset first))
  cases rest with
  | nil => exact ⟨trimEnd first, [], line, trim_trimEnd first⟩
  | cons next rest =>
    rw [unlines_cons first (List.cons_ne_nil _ _)]
    cases blank : isBlank ('\n' :: unlines (next :: rest)) with
    | true =>
      rw [trimEnd_append_of_isBlank first blank]
      exact ⟨trimEnd first, [], line, trim_trimEnd first⟩
    | false =>
      refine ⟨first, lines (trimEnd (unlines (next :: rest))), ?_, rfl⟩
      rw [trimEnd_append_of_content first blank, trimEnd_cons, ← isBlank_cons, blank,
        if_neg Bool.false_ne_true, lines_append_newline, lines_of_isLine single]
      rfl

/-- Trimming at the end does not reach the lines in front of one that has content. -/
theorem lines_trimEnd_append {interior : List Text} (single : ∀ row ∈ interior, IsLine row)
    {first : Text} (content : isBlank first = false) (rest : List Text) :
    lines (trimEnd (unlines (interior ++ first :: rest))) =
      interior ++ lines (trimEnd (unlines (first :: rest))) := by
  induction interior with
  | nil => rfl
  | cons row interior ih =>
    have behind : isBlank ('\n' :: unlines (interior ++ first :: rest)) = false := by
      rw [isBlank_cons, isBlank_unlines_of_mem (by simp) content, Bool.and_false]
    rw [List.cons_append, unlines_cons row (by simp), trimEnd_append_of_content row behind,
      trimEnd_cons, ← isBlank_cons, behind, if_neg Bool.false_ne_true, lines_append_newline,
      lines_of_isLine (single row List.mem_cons_self),
      ih (fun other member => single other (List.mem_cons_of_mem _ member))]
    rfl

theorem unlines_append {rows more : List Text} (some : rows ≠ []) (others : more ≠ []) :
    unlines (rows ++ more) = unlines rows ++ '\n' :: unlines more := by
  induction rows with
  | nil => exact absurd rfl some
  | cons row rows ih =>
    cases rows with
    | nil => exact unlines_cons row others
    | cons next rows =>
      rw [List.cons_append, unlines_cons row (by simp), ih (List.cons_ne_nil _ _),
        unlines_cons row (List.cons_ne_nil _ _), List.append_assoc]
      rfl

end Text

namespace Rules

variable {markers : Markers}

theorem isBlank_of_trim {row marker : Text} (some : marker ≠ []) (same : trim row = marker) :
    isBlank row = false := by
  rw [Bool.eq_false_iff]
  intro blank
  rw [trim_of_isBlank blank] at same
  exact some same.symm

/-- Trimming a text with a region leaves a region with the same inside, whatever that is. -/
theorem Region.exists_trim (starting : markers.rulesStart ≠ []) (closing : markers.rulesEnd ≠ [])
    {rows : List Text} (region : Region markers rows) (single : ∀ row ∈ rows, IsLine row) :
    ∃ (left : List Text) (trimmed : Region markers left), trimmed.interior = region.interior ∧
      ∀ interior, (∀ row ∈ interior, IsLine row) →
        lines (trim (unlines (region.refilled interior))) = trimmed.refilled interior := by
  have opening := isBlank_of_trim starting region.opens
  have ending := isBlank_of_trim closing region.closes
  have inside : ∀ row, row ∈ region.before ++ [region.start] ∨ row = region.close → IsLine row := by
    intro row member
    refine single row ?_
    rw [region.rows_eq]
    rcases member with above | rfl
    · rcases List.mem_append.mp above with early | here
      · simp [early]
      · simp [List.mem_singleton.mp here]
    · simp
  obtain ⟨kept, start, above, opens, sources⟩ :=
    exists_lines_trimStart (fun row member => inside row (.inl member))
  obtain ⟨close, rest, below, closes⟩ :=
    exists_lines_trimEnd region.rest (inside _ (.inr rfl))
  refine ⟨_, ⟨kept, start, region.interior, close, rest, rfl, opens.trans region.opens,
    fun row member => ?_, closes.trans region.closes, region.open_inside⟩, rfl,
    fun interior lined => ?_⟩
  · obtain ⟨source, there, same⟩ := sources row member
    rw [same]
    exact region.closed_before source there
  · have whole : region.refilled interior =
        (region.before ++ [region.start]) ++ (interior ++ region.close :: region.rest) := by
      simp [Region.refilled]
    have content : isBlank (unlines (region.before ++ [region.start])) = false :=
      isBlank_unlines_of_mem (by simp) opening
    have behind : isBlank ('\n' :: unlines (interior ++ region.close :: region.rest)) = false := by
      rw [isBlank_cons, isBlank_unlines_of_mem (by simp) ending, Bool.and_false]
    rw [whole, unlines_append (by simp) (by simp), trim, trimStart_append_of_content content,
      trimEnd_append_of_content _ behind, trimEnd_cons, ← isBlank_cons, behind,
      if_neg Bool.false_ne_true, lines_append_newline, above, lines_trimEnd_append lined ending,
      below]
    simp [Region.refilled]

/-! ## Splicing and trimming -/

/-- Splicing changes nothing of what stripping leaves when the source is trimmed. -/
theorem strip_trim_replace {block : RuleBlock} {original spliced : Text}
    (starting : markers.rulesStart ≠ []) (closing : markers.rulesEnd ≠ [])
    (inert : ∀ row ∈ lines block.text, trim row ≠ markers.rulesEnd)
    (done : replace markers block original = .ok spliced) :
    (strip markers (trim spliced)).toOption = (strip markers (trim original)).toOption := by
  obtain ⟨region, rfl⟩ := replace_eq_ok_iff.mp done
  obtain ⟨left, trimmed, same, cut⟩ :=
    region.exists_trim starting closing (fun _ => isLine_of_mem_lines)
  let filled := trimmed.refill (region.filling block) (region.filling_ne closing inert)
  have after := cut _ (region.isLine_of_mem_filling block)
  have before : lines (trim original) = left := by
    have whole : unlines (region.refilled region.interior) = original := by
      rw [Region.refilled, ← region.rows_eq, unlines_lines]
    rw [← whole, cut region.interior ?_, ← same, Region.refilled, ← trimmed.rows_eq]
    intro row member
    have listed : row ∈ lines original := by
      rw [region.rows_eq]
      simp [member]
    exact isLine_of_mem_lines listed
  rw [toOption_strip, toOption_strip, after, before, filled.toOption_outside,
    trimmed.toOption_outside]
  rfl

/-- Replacing puts the block into any region that a text has. -/
theorem replace_of_region {text : Text} {rows : List Text} (cut : lines text = rows)
    (region : Region markers rows) (block : RuleBlock) :
    replace markers block text = .ok (unlines (region.refilled (region.filling block))) := by
  subst cut
  exact replace_eq_ok_iff.mpr ⟨region, rfl⟩

theorem lines_of_region {text : Text} {rows : List Text} (cut : lines text = rows)
    (region : Region markers rows) (block : RuleBlock) :
    lines (unlines (region.refilled (region.filling block))) =
      region.refilled (region.filling block) := by
  subst cut
  exact region.lines_unlines_refilled block

/-- A block that cannot close its region is found where it has been put, and put there again. -/
theorem replace_replace {block : RuleBlock} {original spliced : Text}
    (closing : markers.rulesEnd ≠ [])
    (inert : ∀ row ∈ lines block.text, trim row ≠ markers.rulesEnd)
    (done : replace markers block original = .ok spliced) :
    replace markers block spliced = .ok spliced := by
  obtain ⟨region, rfl⟩ := replace_eq_ok_iff.mp done
  exact replace_of_region (region.lines_unlines_refilled block)
    (region.refill (region.filling block) (region.filling_ne closing inert)) block

/-! ## Splicing the same block again -/

/-- What is put into a region closes it early, unless the end marker has content and stands on no
line of the block. -/
theorem Region.forall_mem_filling_ne_iff {rows : List Text} (region : Region markers rows)
    (block : RuleBlock) :
    (∀ row ∈ region.filling block, trim row ≠ markers.rulesEnd) ↔
      markers.rulesEnd ≠ [] ∧ ∀ row ∈ lines block.text, trim row ≠ markers.rulesEnd := by
  constructor
  · intro inert
    constructor
    · intro blank
      exact inert [] List.mem_cons_self blank.symm
    · intro row member
      have inside : indentLine (leading region.start) row ∈ region.filling block :=
        List.mem_cons_of_mem _ (List.mem_append_left _ (List.mem_map_of_mem member))
      rw [← trim_indentLine (isBlank_leading region.start)]
      exact inert _ inside
  · rintro ⟨closing, inert⟩
    exact region.filling_ne closing inert

section ClosedEarly

variable {rows inside : List Text} {close : Text}

/-- A region with an end marker among the lines that are put into it ends there, and the other lines
that were put into it stand behind it. -/
def Region.closedEarly (region : Region markers rows) (rest : List Text)
    (closes : trim close = markers.rulesEnd)
    (open_inside : ∀ row ∈ inside, trim row ≠ markers.rulesEnd) :
    Region markers (region.refilled (inside ++ close :: rest)) where
  before := region.before
  start := region.start
  interior := inside
  close := close
  rest := rest ++ region.close :: region.rest
  rows_eq := by simp [Region.refilled]
  opens := region.opens
  closed_before := region.closed_before
  closes := closes
  open_inside := open_inside

theorem Region.length_refilled (region : Region markers rows) (interior : List Text) :
    (region.refilled interior).length =
      region.before.length + interior.length + region.rest.length + 2 := by
  simp only [Region.refilled, List.length_append, List.length_cons]
  omega

/-- When a region is closed early, lines that were put into it stay where they are, and as many
lines as before are put in front of them. -/
theorem Region.length_refilled_lt (region : Region markers rows) (rest : List Text)
    (closes : trim close = markers.rulesEnd)
    (open_inside : ∀ row ∈ inside, trim row ≠ markers.rulesEnd) :
    (region.refilled (inside ++ close :: rest)).length <
      ((region.closedEarly rest closes open_inside).refilled
        (inside ++ close :: rest)).length := by
  rw [Region.length_refilled, Region.length_refilled]
  simp only [Region.closedEarly, List.length_append, List.length_cons]
  omega

end ClosedEarly

/-- Putting the same block into its source again succeeds. It changes nothing exactly when the end
marker has content and stands on no line of the block; otherwise the source grows. -/
theorem exists_replace_again {block : RuleBlock} {original spliced : Text}
    (done : replace markers block original = .ok spliced) :
    ∃ again, replace markers block spliced = .ok again ∧
      (again = spliced ↔
        markers.rulesEnd ≠ [] ∧ ∀ row ∈ lines block.text, trim row ≠ markers.rulesEnd) ∧
      (again ≠ spliced → (lines spliced).length < (lines again).length) := by
  obtain ⟨region, rfl⟩ := replace_eq_ok_iff.mp done
  have cut := region.lines_unlines_refilled block
  have inert_iff := region.forall_mem_filling_ne_iff block
  cases found : breakAt (fun line => trim line == markers.rulesEnd) (region.filling block) with
  | none =>
    have inert := inert_iff.mp (by simpa using breakAt_eq_none_iff.mp found)
    refine ⟨_, replace_replace inert.1 inert.2 done, iff_of_true rfl inert, ?_⟩
    intro changed
    exact absurd rfl changed
  | some parts =>
    obtain ⟨inside, close, rest⟩ := parts
    obtain ⟨whole, closes, open_inside⟩ := breakAt_eq_some_iff.mp found
    simp only [beq_iff_eq] at closes
    simp only [beq_eq_false_iff_ne] at open_inside
    let early := region.closedEarly rest closes open_inside
    have refill : early.filling block = inside ++ close :: rest := whole
    rw [whole] at cut ⊢
    have again := replace_of_region cut early block
    have grown := lines_of_region cut early block
    rw [refill] at again grown
    have longer : (lines (unlines (region.refilled (inside ++ close :: rest)))).length <
        (lines (unlines (early.refilled (inside ++ close :: rest)))).length := by
      rw [cut, grown]
      exact region.length_refilled_lt rest closes open_inside
    refine ⟨_, again, ?_, fun _ => longer⟩
    constructor
    · intro same
      rw [same] at longer
      exact absurd longer (Nat.lt_irrefl _)
    · intro inert
      exact absurd closes (inert_iff.mpr inert close (by simp [whole]))

/-- A block with an end marker of its own, of which a part is left behind each time. -/
theorem exists_replace_again_end_marker_in_block :
    ∃ spliced again, replace {} ⟨"a\n // RULES END\nb".toList⟩ twoRegions = .ok spliced ∧
      replace {} ⟨"a\n // RULES END\nb".toList⟩ spliced = .ok again ∧ again ≠ spliced ∧
      (lines spliced).length < (lines again).length := by
  have done : replace {} ⟨"a\n // RULES END\nb".toList⟩ twoRegions =
      .ok ("a\n\t// RULES START\n\n\ta\n\t // RULES END\n\tb\n\n// RULES END".toList ++
        "\n// RULES START\n// RULES END\n// RULES END".toList) := by
    cbv
  obtain ⟨again, replaced, stable, grows⟩ := exists_replace_again done
  refine ⟨_, again, done, replaced, ?changed, grows ?changed⟩
  intro same
  exact (stable.mp same).2 " // RULES END".toList (by decide) (by decide)

end Rules

end ParserRefresh
