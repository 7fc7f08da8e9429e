import ParserRefresh.Proofs.CharacterBytes
import ParserRefresh.Proofs.ExtractedRules

/-! # Slices of extracted lines

Dedenting cuts every line behind as many bytes as the shared indentation has. A line with content
starts with this indentation, so the cut lies between two of its characters. A blank line has no
bytes, and it is extracted only where it is the first line of all and the sentinel is empty. Such a
line is cut behind its end when the lines below it are all indented, and there extraction
crashes. -/

namespace ParserRefresh.Rules

open Text

variable {options : ExtractOptions} {output sentinel indent : Text} {rows : List Text}

/-! ## Slices -/

/-- A cut through the bytes of a line, of which those from `place` on are kept. -/
structure Slice where
  line : Text
  place : Nat

namespace Slice

/-- The cut does not lie behind the last byte. -/
def InRange (slice : Slice) : Prop := slice.place ≤ (toUtf8 slice.line).length

/-- The cut lies between two characters, or at an end of the line. -/
def OnBoundary (slice : Slice) : Prop :=
  ∃ front back, front ++ back = slice.line ∧ (toUtf8 front).length = slice.place

def kept (slice : Slice) : List UInt8 := (toUtf8 slice.line).drop slice.place

/-- A line is cut behind its indentation. -/
def behind (indent line : Text) : Slice := ⟨line, (toUtf8 indent).length⟩

theorem OnBoundary.inRange {slice : Slice} (boundary : slice.OnBoundary) : slice.InRange := by
  obtain ⟨front, back, whole, place⟩ := boundary
  rw [InRange, ← place, ← whole, toUtf8_append, List.length_append]
  exact Nat.le_add_right _ _

theorem onBoundary_behind {line : Text} (start : indent <+: line) : (behind indent line).OnBoundary :=
  have ⟨rest, whole⟩ := start
  ⟨indent, rest, whole, rfl⟩

theorem inRange_behind_nil_iff : (behind indent []).InRange ↔ indent = [] := by
  rw [InRange, ← toUtf8_eq_nil_iff, ← List.length_eq_zero_iff]
  exact Nat.le_zero

/-- Cutting bytes keeps the bytes of the characters that cutting characters keeps. -/
theorem kept_behind {line : Text} (start : indent <+: line) :
    (behind indent line).kept = toUtf8 (line.drop indent.length) := by
  obtain ⟨rest, rfl⟩ := start
  rw [kept, behind, toUtf8_append, List.drop_left, List.drop_left]

end Slice

/-- The slices that extraction takes of the lines that it finds. -/
def slices (options : ExtractOptions) (output : Text) : List Slice :=
  let rows := run options.sentinel (outputLines output)
  if options.dedent then rows.map (Slice.behind (commonIndent rows)) else []

/-! ## Lines that are too short -/

/-- What is found are lines of the output without the white space at their ends. -/
theorem exists_of_mem_run {row : Text} (member : row ∈ run sentinel rows) :
    ∃ source ∈ rows, trimEnd source = row := by
  unfold run at member
  split at member
  · cases member
  next first rest dropped =>
  obtain ⟨source, there, rfl⟩ := List.mem_map.mp member
  have inside : source ∈ first :: rest := ((List.takeWhile_sublist _).cons_cons first).subset there
  rw [← dropped] at inside
  exact ⟨source, (List.dropWhile_sublist _).subset inside, rfl⟩

/-- A line that is found starts with the indentation that all of them share, or it is empty. -/
theorem eq_nil_or_isPrefix {row : Text} (member : row ∈ run sentinel rows) :
    row = [] ∨ commonIndent (run sentinel rows) <+: row := by
  cases blank : isBlank row with
  | true =>
    obtain ⟨source, -, rfl⟩ := exists_of_mem_run member
    rw [isBlank_trimEnd] at blank
    exact .inl (trimEnd_eq_nil_iff.mpr blank)
  | false => exact .inr (commonIndent_isPrefix_line member blank)

theorem isPrefix_trimEnd_iff (spaces : ∀ c ∈ indent, isIndent c = true) {row : Text}
    (content : isBlank row = false) : indent <+: trimEnd row ↔ indent <+: row := by
  rw [← isPrefix_leading_iff spaces, leading_trimEnd content, isPrefix_leading_iff spaces]

/-- An output whose first line is blank, above lines with content that all start with the same
spaces and tabs, where dedenting is asked for and every line opens rules. -/
structure StartsBlank (options : ExtractOptions) (output : Text) : Prop where
  dedent : options.dedent = true
  sentinel : options.sentinel = []
  shape : ∃ first body below, outputLines output = first :: (body ++ below) ∧
    isBlank first = true ∧ body ≠ [] ∧ (∀ row ∈ body, isBlank row = false) ∧
    (∀ row ∈ below.head?, isBlank row = true) ∧
    ∃ indent, indent ≠ [] ∧ (∀ c ∈ indent, isIndent c = true) ∧ ∀ row ∈ body, indent <+: row

/-- The lines of a stretch that starts with a blank line share an indentation exactly if there are
lines with content below it that do. -/
theorem Stretch.commonIndent_ne_nil_iff (stretch : Stretch sentinel rows)
    (blank : isBlank stretch.first = true) :
    commonIndent stretch.trimmed ≠ [] ↔ stretch.body ≠ [] ∧ ∃ indent, indent ≠ [] ∧
      (∀ c ∈ indent, isIndent c = true) ∧ ∀ row ∈ stretch.body, indent <+: row := by
  have parts : stretch.trimmed = [] :: stretch.body.map trimEnd := by
    rw [trimmed, List.map_cons, trimEnd_eq_nil_iff.mpr blank]
  by_cases none : stretch.body = []
  · rw [parts, none]
    exact iff_of_false (fun shared => shared rfl) (fun both => both.1 rfl)
  obtain ⟨row, listed⟩ := List.exists_mem_of_ne_nil _ none
  have member : trimEnd row ∈ stretch.trimmed :=
    parts ▸ List.mem_cons_of_mem _ (List.mem_map_of_mem listed)
  have content : isBlank (trimEnd row) = false :=
    (isBlank_trimEnd row).trans (stretch.content row listed)
  have starts : ∀ indent : Text, (∀ c ∈ indent, isIndent c = true) →
      ((∀ row ∈ stretch.trimmed, isBlank row = false → indent <+: row) ↔
        ∀ row ∈ stretch.body, indent <+: row) := by
    intro indent spaces
    rw [parts, List.forall_mem_cons, List.forall_mem_map]
    constructor
    · rintro ⟨-, every⟩ row there
      have filled := stretch.content row there
      exact (isPrefix_trimEnd_iff spaces filled).mp
        (every row there ((isBlank_trimEnd row).trans filled))
    · refine fun every => ⟨(fun filled => by cases filled), fun row there _ => ?_⟩
      exact (isPrefix_trimEnd_iff spaces (stretch.content row there)).mpr (every row there)
  rw [Text.commonIndent_ne_nil_iff member content, and_iff_right none]
  exact exists_congr fun indent => and_congr_right fun _ => and_congr_right fun spaces =>
    starts indent spaces

/-- Extraction meets an output that starts blank exactly if it finds an empty line among lines that
share an indentation. -/
theorem startsBlank_iff : StartsBlank options output ↔ options.dedent = true ∧
    [] ∈ run options.sentinel (outputLines output) ∧
      commonIndent (run options.sentinel (outputLines output)) ≠ [] := by
  constructor
  · rintro ⟨dedent, empty, first, body, below, whole, blank, some, content, ends, shares⟩
    let stretch : Stretch options.sentinel (outputLines output) :=
      { above := []
        first := first
        body := body
        below := below
        rows_eq := whole
        closed_above := List.forall_mem_nil _
        opening := empty ▸ List.nil_prefix
        content := content
        ends := ends }
    rw [stretch.run_eq]
    refine ⟨dedent, ?_, (stretch.commonIndent_ne_nil_iff blank).mpr ⟨some, shares⟩⟩
    exact List.mem_map.mpr ⟨first, List.mem_cons_self, trimEnd_eq_nil_iff.mpr blank⟩
  · rintro ⟨dedent, member, shared⟩
    have opens : ∃ row ∈ outputLines output, options.sentinel <+: trimStart row := by
      by_contra! closed
      rw [run_eq_nil_iff.mpr closed] at member
      cases member
    obtain ⟨stretch⟩ := nonempty_stretch opens
    rw [stretch.run_eq] at member shared
    obtain ⟨source, there, nothing⟩ := List.mem_map.mp member
    have space := trimEnd_eq_nil_iff.mp nothing
    -- The lines below the first one are not blank, so it is the first one.
    have blank : isBlank stretch.first = true := by
      rcases List.mem_cons.mp there with rfl | later
      · exact space
      · rw [stretch.content source later] at space
        cases space
    have empty : options.sentinel = [] := by
      by_contra some
      have content := isBlank_of_opens some (opens_iff.mpr stretch.opening)
      rw [blank] at content
      cases content
    have first : stretch.above = [] := by
      rw [List.eq_nil_iff_forall_not_mem]
      exact fun row above => stretch.closed_above row above (empty ▸ List.nil_prefix)
    obtain ⟨some, shares⟩ := (stretch.commonIndent_ne_nil_iff blank).mp shared
    have whole := stretch.rows_eq
    rw [first, List.nil_append] at whole
    exact ⟨dedent, empty, _, _, _, whole, blank, some, stretch.content, stretch.ends, shares⟩

/-! ## Extraction and its slices -/

theorem mem_slices_iff {slice : Slice} : slice ∈ slices options output ↔
    options.dedent = true ∧ ∃ row ∈ run options.sentinel (outputLines output),
      Slice.behind (commonIndent (run options.sentinel (outputLines output))) row = slice := by
  rw [slices]
  cases options.dedent with
  | true => exact List.mem_map.trans (and_iff_right rfl).symm
  | false => exact iff_of_false List.not_mem_nil (fun both => by cases both.1)

/-- Some slice is out of range exactly in an output that starts blank. -/
theorem exists_not_inRange_iff :
    (∃ slice ∈ slices options output, ¬ slice.InRange) ↔ StartsBlank options output := by
  rw [startsBlank_iff]
  constructor
  · rintro ⟨slice, member, outside⟩
    obtain ⟨dedent, row, there, rfl⟩ := mem_slices_iff.mp member
    rcases eq_nil_or_isPrefix there with rfl | start
    · exact ⟨dedent, there, fun none => outside (Slice.inRange_behind_nil_iff.mpr none)⟩
    · exact absurd (Slice.onBoundary_behind start).inRange outside
  · rintro ⟨dedent, there, shared⟩
    refine ⟨_, mem_slices_iff.mpr ⟨dedent, [], there, rfl⟩, fun inside => ?_⟩
    exact shared (Slice.inRange_behind_nil_iff.mp inside)

/-- In any other output every line that is cut starts with the indentation that is cut off. -/
theorem isPrefix_of_not_startsBlank (regular : ¬ StartsBlank options output)
    (dedent : options.dedent = true) :
    ∀ row ∈ run options.sentinel (outputLines output),
      commonIndent (run options.sentinel (outputLines output)) <+: row := by
  intro row there
  rcases eq_nil_or_isPrefix there with rfl | start
  · by_contra longer
    exact regular (startsBlank_iff.mpr
      ⟨dedent, there, fun none => longer (List.prefix_nil.mpr none)⟩)
  · exact start

/-- Extraction crashes exactly in an output that starts blank. -/
theorem extract_eq_crashed_iff :
    extract options output = .error .crashed ↔ StartsBlank options output := by
  constructor
  · intro failed
    by_contra regular
    unfold extract at failed
    split at failed
    · cases failed
    next first rest found =>
    dsimp only at failed
    split at failed
    · next dedent =>
      have start := isPrefix_of_not_startsBlank regular dedent
      rw [found] at start
      rw [mapM_cutIndent, if_pos (fun row there => (start row there).length_le)] at failed
      cases failed
    · cases failed
  · intro blank
    obtain ⟨dedent, there, shared⟩ := startsBlank_iff.mp blank
    unfold extract
    split
    · next found =>
      rw [found] at there
      cases there
    next first rest found =>
    rw [found] at there shared
    dsimp only
    rw [if_pos dedent, mapM_cutIndent, if_neg]
    · rfl
    · intro long
      exact shared (List.length_eq_zero_iff.mp (Nat.le_zero.mp (long [] there)))

/-- What is kept of the slices are the bytes of the lines of the block. -/
theorem map_kept_slices {block : RuleBlock} (dedent : options.dedent = true)
    (extracted : extract options output = .ok block) :
    (slices options output).map Slice.kept = (lines block.text).map toUtf8 := by
  have regular : ¬ StartsBlank options output := fun blank => by
    cases extracted.symm.trans (extract_eq_crashed_iff.mpr blank)
  have start := isPrefix_of_not_startsBlank regular dedent
  unfold extract at extracted
  split at extracted
  · cases extracted
  next first rest found =>
  dsimp only at extracted
  rw [← found, if_pos dedent, mapM_cutIndent,
    if_pos (fun row there => (start row there).length_le)] at extracted
  cases extracted
  have single : ∀ row ∈ dedented (run options.sentinel (outputLines output)), IsLine row := by
    intro row member
    obtain ⟨whole, there, rfl⟩ := List.mem_map.mp member
    obtain ⟨source, listed, rfl⟩ := exists_of_mem_run there
    refine (isLine_of_mem_outputLines listed).of_subset ?_
    exact List.Subset.trans (List.drop_subset _ _) (trimEnd_subset source)
  have some : dedented (run options.sentinel (outputLines output)) ≠ [] := by
    rw [found]
    exact List.cons_ne_nil _ _
  have whole := lines_unlines some single
  rw [dedented] at whole
  rw [whole, slices, if_pos dedent, List.map_map, List.map_map]
  exact List.map_congr_left (fun row there => Slice.kept_behind (start row there))

/-- The slices of an extraction are all in range and between two characters, and what they keep is
the block, unless the output starts blank. Then, and only then, one of them is out of range, and
extraction crashes. -/
theorem slices_onBoundary_iff (options : ExtractOptions) (output : Text) :
    ((∃ slice ∈ slices options output, ¬ slice.InRange) ↔ StartsBlank options output) ∧
    (extract options output = .error .crashed ↔ StartsBlank options output) ∧
    (¬ StartsBlank options output →
      ∀ slice ∈ slices options output, slice.InRange ∧ slice.OnBoundary) ∧
    ∀ block, options.dedent = true → extract options output = .ok block →
      (slices options output).map Slice.kept = (lines block.text).map toUtf8 := by
  refine ⟨exists_not_inRange_iff, extract_eq_crashed_iff, fun regular slice member => ?_,
    fun _ => map_kept_slices⟩
  obtain ⟨dedent, row, there, rfl⟩ := mem_slices_iff.mp member
  have boundary := Slice.onBoundary_behind (isPrefix_of_not_startsBlank regular dedent row there)
  exact ⟨boundary.inRange, boundary⟩

/-- An output that starts with a wide space, above two lines that share a tab. -/
def wideOutput : Text := "\u3000\r\n\t a\r\n\tb\n\nc".toList

theorem startsBlank_wideOutput : StartsBlank ⟨[], true⟩ wideOutput where
  dedent := rfl
  sentinel := rfl
  shape := by
    refine ⟨['\u3000'], ["\t a".toList, "\tb".toList], [[], ['c']], by decide +kernel,
      by decide, by decide, by decide, by decide, ['\t'], by decide,
      List.forall_mem_singleton.mpr rfl, ?_⟩
    simp [List.cons_prefix_cons]

/-- The lines of this output cannot be cut. Without the first one they can. -/
theorem slices_onBoundary_iff_wideOutput :
    (∃ slice ∈ slices ⟨[], true⟩ wideOutput, ¬ slice.InRange) ∧
      extract ⟨[], true⟩ wideOutput = .error .crashed ∧
      (slices ⟨[], true⟩ (wideOutput.drop 3)).map Slice.kept = [" a".toList, ['b']].map toUtf8 := by
  obtain ⟨outside, crashes, -, -⟩ := slices_onBoundary_iff ⟨[], true⟩ wideOutput
  obtain ⟨-, -, -, keeps⟩ := slices_onBoundary_iff ⟨[], true⟩ (wideOutput.drop 3)
  have cut : extract ⟨[], true⟩ (wideOutput.drop 3) = .ok ⟨" a\nb".toList⟩ := by cbv
  exact ⟨outside.mpr startsBlank_wideOutput, crashes.mpr startsBlank_wideOutput,
    (keeps _ rfl cut).trans (by decide)⟩

end ParserRefresh.Rules
