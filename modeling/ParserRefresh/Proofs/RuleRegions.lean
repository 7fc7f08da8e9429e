import ParserRefresh.Proofs.Lines
import ParserRefresh.Proofs.WhiteSpace
import ParserRefresh.Source.Rules

/-! # Rule regions

The first region of a source runs from the first line that trims to the start marker to the first
later line that trims to the end marker. Replacing rewrites the inside of this region; stripping
passes over it and goes on behind it. What stripping leaves thus depends on a region only through
the lines around it. -/

namespace ParserRefresh.Rules

open Text

variable {markers : Markers}

theorem breakAt_eq_some_iff {p : Text → Bool} {rows before after : List Text} {found : Text} :
    breakAt p rows = some (before, found, after) ↔
      rows = before ++ found :: after ∧ p found = true ∧ ∀ row ∈ before, p row = false := by
  induction rows generalizing before with
  | nil => simp [breakAt]
  | cons row rows ih =>
    rw [breakAt]
    cases holds : p row with
    | true =>
      rw [if_pos rfl]
      constructor
      · intro found
        cases found
        exact ⟨rfl, holds, List.forall_mem_nil _⟩
      · rintro ⟨whole, here, earlier⟩
        cases before with
        | nil =>
          rw [List.nil_append, List.cons.injEq] at whole
          rw [whole.1, whole.2]
        | cons first before =>
          have same : row = first := (List.cons.inj whole).1
          have fails := earlier first List.mem_cons_self
          rw [← same, holds] at fails
          cases fails
    | false =>
      rw [if_neg Bool.false_ne_true, Option.map_eq_some_iff]
      constructor
      · rintro ⟨⟨start, middle, rest⟩, inner, same⟩
        cases same
        obtain ⟨whole, here, earlier⟩ := ih.mp inner
        refine ⟨by rw [whole]; rfl, here, ?_⟩
        intro other member
        rcases List.mem_cons.mp member with rfl | later
        · exact holds
        · exact earlier other later
      · rintro ⟨whole, here, earlier⟩
        cases before with
        | nil =>
          have same : row = found := (List.cons.inj whole).1
          rw [← same, holds] at here
          cases here
        | cons first before =>
          obtain ⟨rfl, tail⟩ := List.cons.inj whole
          refine ⟨(before, found, after), ?_, rfl⟩
          exact ih.mpr ⟨tail, here, fun other member =>
            earlier other (List.mem_cons_of_mem _ member)⟩

theorem breakAt_eq_none_iff {p : Text → Bool} {rows : List Text} :
    breakAt p rows = none ↔ ∀ row ∈ rows, p row = false := by
  induction rows with
  | nil => simp [breakAt]
  | cons row rows ih =>
    rw [breakAt, List.forall_mem_cons]
    cases holds : p row with
    | true => simp
    | false =>
      rw [if_neg Bool.false_ne_true, Option.map_eq_none_iff, ih]
      exact (and_iff_right rfl).symm

/-- The first region of a list of lines: its marker lines, what stands between them, and what
stands around them. -/
structure Region (markers : Markers) (rows : List Text) where
  before : List Text
  start : Text
  interior : List Text
  close : Text
  rest : List Text
  rows_eq : rows = before ++ start :: (interior ++ close :: rest)
  opens : trim start = markers.rulesStart
  closed_before : ∀ row ∈ before, trim row ≠ markers.rulesStart
  closes : trim close = markers.rulesEnd
  open_inside : ∀ row ∈ interior, trim row ≠ markers.rulesEnd

namespace Region

variable {rows : List Text}

/-- The lines with other lines inside the region. -/
def refilled (region : Region markers rows) (interior : List Text) : List Text :=
  region.before ++ region.start :: (interior ++ region.close :: region.rest)

/-- The lines that are written between the markers: the block between two blank lines, indented
like the start marker. -/
def filling (region : Region markers rows) (block : RuleBlock) : List Text :=
  [] :: (indentLines (leading region.start) (lines block.text) ++ [[]])

/-- Lines that do not close the region make up a region in its place. -/
def refill (region : Region markers rows) (interior : List Text)
    (inert : ∀ row ∈ interior, trim row ≠ markers.rulesEnd) :
    Region markers (region.refilled interior) :=
  { region with interior, rows_eq := rfl, open_inside := inert }

theorem breakAt_start (region : Region markers rows) :
    breakAt (fun line => trim line == markers.rulesStart) rows =
      some (region.before, region.start, region.interior ++ region.close :: region.rest) :=
  breakAt_eq_some_iff.mpr
    ⟨region.rows_eq, by simp [region.opens], by simpa using region.closed_before⟩

theorem breakAt_end (region : Region markers rows) :
    breakAt (fun line => trim line == markers.rulesEnd)
        (region.interior ++ region.close :: region.rest) =
      some (region.interior, region.close, region.rest) :=
  breakAt_eq_some_iff.mpr ⟨rfl, by simp [region.closes], by simpa using region.open_inside⟩

/-- There is one first region at most. -/
instance : Subsingleton (Region markers rows) := by
  constructor
  intro region other
  have opening := region.breakAt_start.symm.trans other.breakAt_start
  have closing := region.breakAt_end
  have closingOther := other.breakAt_end
  obtain ⟨before, tail⟩ := Prod.mk.inj (Option.some.inj opening)
  obtain ⟨start, inner⟩ := Prod.mk.inj tail
  rw [inner, closingOther] at closing
  obtain ⟨interior, tail⟩ := Prod.mk.inj (Option.some.inj closing)
  obtain ⟨close, rest⟩ := Prod.mk.inj tail
  cases region
  cases other
  dsimp only at before start interior close rest
  subst before start interior close rest
  rfl

end Region

/-- Replacing succeeds where there is a first region, and fills it. -/
theorem replace_eq_ok_iff {block : RuleBlock} {original spliced : Text} :
    replace markers block original = .ok spliced ↔
      ∃ region : Region markers (lines original),
        unlines (region.refilled (region.filling block)) = spliced := by
  unfold replace
  constructor
  · intro done
    split at done
    · cases done
    · next before start after opening =>
      split at done
      · cases done
      · next interior close rest closing =>
        obtain ⟨whole, opens, earlier⟩ := breakAt_eq_some_iff.mp opening
        obtain ⟨tail, closes, inside⟩ := breakAt_eq_some_iff.mp closing
        simp only [beq_iff_eq] at opens closes
        simp only [beq_eq_false_iff_ne] at earlier inside
        rw [tail] at whole
        refine ⟨⟨before, start, interior, close, rest, whole, opens, earlier, closes, inside⟩, ?_⟩
        rw [← Except.ok.inj done]
        simp [Region.refilled, Region.filling]
  · rintro ⟨region, rfl⟩
    rw [region.breakAt_start]
    dsimp only
    rw [region.breakAt_end]
    simp [Region.refilled, Region.filling]

/-! ## What stripping passes over -/

theorem outside_append_of_forall_ne {before : List Text} (number : Nat) (rest : List Text)
    (closed : ∀ row ∈ before, trim row ≠ markers.rulesStart) :
    outside markers none number (before ++ rest) =
      (outside markers none (number + before.length) rest).map (before ++ ·) := by
  induction before generalizing number with
  | nil => cases found : outside markers none number rest <;> simp [found, Except.map]
  | cons row before ih =>
    have here := closed row List.mem_cons_self
    rw [List.cons_append, outside, if_neg here,
      ih (number + 1) (fun other member => closed other (List.mem_cons_of_mem _ member)),
      List.length_cons, Nat.add_assoc, Nat.add_comm 1]
    cases outside markers none (number + (before.length + 1)) rest <;> rfl

theorem outside_some_append_of_forall_ne {interior : List Text} {close : Text}
    (opened number : Nat) (rest : List Text)
    (inside : ∀ row ∈ interior, trim row ≠ markers.rulesEnd)
    (closes : trim close = markers.rulesEnd) :
    outside markers (some opened) number (interior ++ close :: rest) =
      outside markers none (number + interior.length + 1) rest := by
  induction interior generalizing number with
  | nil => rw [List.nil_append, outside, if_pos closes, List.length_nil, Nat.add_zero]
  | cons row interior ih =>
    have here := inside row List.mem_cons_self
    rw [List.cons_append, outside, if_neg here,
      ih (number + 1) (fun other member => inside other (List.mem_cons_of_mem _ member)),
      List.length_cons, Nat.add_assoc number 1, Nat.add_comm 1]

/-- Where a line stands decides how a fault is worded, not which lines are left. -/
theorem toOption_outside (markers : Markers) (opened reopened : Option Nat)
    (same : opened.isSome = reopened.isSome) (number renumbered : Nat) (rows : List Text) :
    (outside markers opened number rows).toOption =
      (outside markers reopened renumbered rows).toOption := by
  induction rows generalizing opened reopened number renumbered with
  | nil => cases opened <;> cases reopened <;> first | rfl | cases same
  | cons row rows ih =>
    cases opened with
    | none =>
      cases reopened with
      | some _ => cases same
      | none =>
        rw [outside, outside]
        split
        · exact ih (some number) (some renumbered) rfl _ _
        · have later := ih none none rfl (number + 1) (renumbered + 1)
          revert later
          cases outside markers none (number + 1) rows <;>
            cases outside markers none (renumbered + 1) rows <;>
              simp [Except.toOption, Except.map]
    | some first =>
      cases reopened with
      | none => cases same
      | some second =>
        rw [outside, outside]
        split
        · exact ih none none rfl _ _
        · exact ih (some first) (some second) rfl _ _

/-- Stripping keeps the lines in front of a region and goes on behind it. -/
theorem Region.toOption_outside {rows : List Text} (region : Region markers rows) :
    (outside markers none 1 rows).toOption =
      (outside markers none 1 region.rest).toOption.map (region.before ++ ·) := by
  rcases region with ⟨before, start, interior, close, rest, rfl, opens, earlier, closes, inside⟩
  rw [outside_append_of_forall_ne 1 _ earlier, outside, if_pos opens,
    outside_some_append_of_forall_ne _ _ _ inside closes]
  dsimp only
  rw [Rules.toOption_outside markers none none rfl 1
    (1 + before.length + 1 + interior.length + 1) rest]
  cases outside markers none (1 + before.length + 1 + interior.length + 1) rest <;> rfl

theorem toOption_strip (markers : Markers) (text : Text) :
    (strip markers text).toOption = (outside markers none 1 (lines text)).toOption.map unlines := by
  unfold strip
  cases outside markers none 1 (lines text) <;> rfl

/-! ## Splicing and stripping -/

/-- A block that cannot close its region goes in as lines that do not. -/
theorem Region.filling_ne {rows : List Text} (region : Region markers rows) {block : RuleBlock}
    (closing : markers.rulesEnd ≠ [])
    (inert : ∀ row ∈ lines block.text, trim row ≠ markers.rulesEnd) :
    ∀ row ∈ region.filling block, trim row ≠ markers.rulesEnd := by
  have blank : trim [] ≠ markers.rulesEnd := fun same => closing same.symm
  intro row member
  simp only [Region.filling, List.mem_cons, List.mem_append, List.not_mem_nil, or_false] at member
  rcases member with rfl | member | rfl
  · exact blank
  · obtain ⟨source, within, rfl⟩ := List.mem_map.mp member
    rw [trim_indentLine (isBlank_leading _)]
    exact inert source within
  · exact blank

theorem isLine_leading (line : Text) : IsLine (leading line) := by
  intro inside
  have indent : isIndent '\n' = true := List.mem_takeWhile_imp inside
  cases indent

theorem Region.isLine_of_mem_filling {rows : List Text} (region : Region markers rows)
    (block : RuleBlock) : ∀ row ∈ region.filling block, IsLine row := by
  intro row member
  simp only [Region.filling, List.mem_cons, List.mem_append, List.not_mem_nil, or_false] at member
  rcases member with rfl | member | rfl
  · exact isLine_nil
  · obtain ⟨source, within, rfl⟩ := List.mem_map.mp member
    exact isLine_indentLine (isLine_leading _) (isLine_of_mem_lines within)
  · exact isLine_nil

theorem Region.mem_of_mem_refilled {rows : List Text} (region : Region markers rows)
    {interior : List Text} {row : Text} (member : row ∈ region.refilled interior) :
    row ∈ interior ∨ row ∈ rows := by
  rw [region.rows_eq]
  simp only [Region.refilled, List.mem_append, List.mem_cons] at member ⊢
  rcases member with early | rfl | inside | rfl | late
  · exact Or.inr (Or.inl early)
  · exact Or.inr (Or.inr (Or.inl rfl))
  · exact Or.inl inside
  · exact Or.inr (Or.inr (Or.inr (Or.inr (Or.inl rfl))))
  · exact Or.inr (Or.inr (Or.inr (Or.inr (Or.inr late))))

/-- The lines of a text whose first region has been filled are the lines it was put together
from. -/
theorem Region.lines_unlines_refilled {original : Text} (region : Region markers (lines original))
    (block : RuleBlock) :
    lines (unlines (region.refilled (region.filling block))) =
      region.refilled (region.filling block) := by
  apply lines_unlines (by simp [Region.refilled])
  intro row member
  rcases region.mem_of_mem_refilled member with inside | outside
  · exact region.isLine_of_mem_filling block row inside
  · exact isLine_of_mem_lines outside

/-- Splicing never changes what stripping leaves. -/
theorem strip_replace {block : RuleBlock} {original spliced : Text}
    (closing : markers.rulesEnd ≠ [])
    (inert : ∀ row ∈ lines block.text, trim row ≠ markers.rulesEnd)
    (done : replace markers block original = .ok spliced) :
    (strip markers spliced).toOption = (strip markers original).toOption := by
  obtain ⟨region, rfl⟩ := replace_eq_ok_iff.mp done
  let filled := region.refill (region.filling block) (region.filling_ne closing inert)
  rw [toOption_strip, toOption_strip, region.lines_unlines_refilled block,
    filled.toOption_outside, region.toOption_outside]
  rfl

/-- A source with two regions and a stray end marker. -/
def twoRegions : Text :=
  "a\n\t// RULES START\nb\n// RULES END\n// RULES START\n// RULES END\n// RULES END".toList

/-- The block may hold a start marker, and a later region and a stray end marker may follow. -/
theorem strip_replace_start_marker_in_block :
    ∃ spliced, replace {} ⟨"rule\n// RULES START".toList⟩ twoRegions = .ok spliced ∧
      ({} : Markers).rulesEnd ≠ [] ∧
      (∀ row ∈ lines "rule\n// RULES START".toList, trim row ≠ ({} : Markers).rulesEnd) ∧
      (strip {} spliced).toOption = (strip {} twoRegions).toOption := by
  have closing : ({} : Markers).rulesEnd ≠ [] := by decide
  have inert : ∀ row ∈ lines "rule\n// RULES START".toList,
      trim row ≠ ({} : Markers).rulesEnd := by
    decide +kernel
  have done : replace {} ⟨"rule\n// RULES START".toList⟩ twoRegions =
      .ok ("a\n\t// RULES START\n\n\trule\n\t// RULES START\n\n// RULES END".toList ++
        "\n// RULES START\n// RULES END\n// RULES END".toList) := by
    cbv
  exact ⟨_, done, closing, inert, strip_replace closing inert done⟩

end ParserRefresh.Rules
