import ParserRefresh.Proofs.RuleRegions

/-! # Lines divided into blocks

Lines are read from the left. A line that opens no block stands by itself; a line that opens one
takes the lines after it along, up to the first that closes the block. All lines are divided in
this way, and in one way only, where a block that is never closed takes all the lines that are
left. -/

namespace ParserRefresh

open Text

/-- A line that opens a block, the lines inside, and the first later line that closes the block.
Which lines close it may depend on the one that opens it. -/
structure Span (opens : Text → Prop) (closes : Text → Text → Prop) where
  opening : Text
  inside : List Text
  closing : Text
  opened : opens opening
  open_inside : ∀ row ∈ inside, ¬ closes opening row
  closed : closes opening closing

/-- A line that opens a block, and lines after it that do not close the block. -/
structure Pending (opens : Text → Prop) (closes : Text → Text → Prop) where
  opening : Text
  inside : List Text
  opened : opens opening
  open_inside : ∀ row ∈ inside, ¬ closes opening row

/-- What is read at once. -/
inductive Part (opens : Text → Prop) (closes : Text → Text → Prop) where
  | line (row : Text) (plain : ¬ opens row)
  | block (span : Span opens closes)

variable {opens : Text → Prop} {closes : Text → Text → Prop}

def Span.rows (span : Span opens closes) : List Text :=
  span.opening :: (span.inside ++ [span.closing])

def Pending.rows (pending : Pending opens closes) : List Text := pending.opening :: pending.inside

def Part.rows : Part opens closes → List Text
  | .line row _ => [row]
  | .block span => span.rows

/-- A line outside of blocks is kept, and a block is not. -/
def Part.kept : Part opens closes → List Text
  | .line row _ => [row]
  | .block _ => []

/-- A division of lines into parts, of which the last may be a block that is never closed. -/
structure Division (opens : Text → Prop) (closes : Text → Text → Prop) (rows : List Text) where
  parts : List (Part opens closes)
  pending : Option (Pending opens closes)
  rows_eq : parts.flatMap Part.rows ++ pending.elim [] Pending.rows = rows

/-- The blocks among the parts, each with the number of the line that opens it, when the first line
has the given number. -/
def numbered (number : Nat) : List (Part opens closes) → List (Nat × Span opens closes)
  | [] => []
  | .line _ _ :: parts => numbered (number + 1) parts
  | .block span :: parts => (number, span) :: numbered (number + span.rows.length) parts

theorem numbered_cons (number : Nat) (part : Part opens closes) (parts : List (Part opens closes)) :
    numbered number (part :: parts) =
      numbered number [part] ++ numbered (number + part.rows.length) parts := by
  cases part with
  | line row plain => rfl
  | block span => rfl

namespace Division

variable {rows : List Text}

def kept (division : Division opens closes rows) : List Text := division.parts.flatMap Part.kept

/-- The blocks that are closed, each with the number of the line that opens it. -/
def blocks (division : Division opens closes rows) : List (Nat × Span opens closes) :=
  numbered 1 division.parts

/-- The number of the first line that is in no part. -/
def pendingLine (division : Division opens closes rows) : Nat :=
  1 + (division.parts.flatMap Part.rows).length

theorem not_opens_of_mem_kept (division : Division opens closes rows) {row : Text}
    (member : row ∈ division.kept) : ¬ opens row := by
  obtain ⟨part, -, inside⟩ := List.mem_flatMap.mp member
  cases part with
  | line other plain =>
    rw [List.mem_singleton.mp inside]
    exact plain
  | block span => cases inside

theorem kept_subset (division : Division opens closes rows) : division.kept ⊆ rows := by
  intro row member
  obtain ⟨part, there, inside⟩ := List.mem_flatMap.mp member
  have found : row ∈ part.rows := by
    cases part with
    | line other plain => exact inside
    | block span => cases inside
  rw [← division.rows_eq]
  exact List.mem_append_left _ (List.mem_flatMap.mpr ⟨part, there, found⟩)

/-! ## All lines are divided -/

def cons (part : Part opens closes) (later : Division opens closes rows) :
    Division opens closes (part.rows ++ rows) where
  parts := part :: later.parts
  pending := later.pending
  rows_eq := by rw [List.flatMap_cons, List.append_assoc, later.rows_eq]

/-- A block is found up to its first closing line, or goes on to the end of the lines. -/
theorem exists_span_or_pending {opening : Text} (opened : opens opening) (rest : List Text) :
    (∃ (span : Span opens closes) (more : List Text), opening :: rest = span.rows ++ more) ∨
      ∃ pending : Pending opens closes, opening :: rest = pending.rows := by
  classical
  cases found : Rules.breakAt (fun row => decide (closes opening row)) rest with
  | none =>
    have inside := Rules.breakAt_eq_none_iff.mp found
    simp only [decide_eq_false_iff_not] at inside
    exact .inr ⟨⟨opening, rest, opened, inside⟩, rfl⟩
  | some parts =>
    obtain ⟨inside, closing, more⟩ := parts
    obtain ⟨whole, closed, earlier⟩ := Rules.breakAt_eq_some_iff.mp found
    simp only [decide_eq_false_iff_not] at earlier
    refine .inl ⟨⟨opening, inside, closing, opened, earlier, of_decide_eq_true closed⟩, more, ?_⟩
    simp [Span.rows, whole]

theorem exists_division (rows : List Text) : Nonempty (Division opens closes rows) := by
  match rows with
  | [] => exact ⟨⟨[], none, rfl⟩⟩
  | row :: rest =>
    by_cases opened : opens row
    · rcases exists_span_or_pending opened rest with ⟨span, more, whole⟩ | ⟨pending, whole⟩
      · have shorter : more.length < (row :: rest).length := by
          rw [whole, List.length_append]
          exact Nat.lt_add_of_pos_left (Nat.succ_pos _)
        obtain ⟨later⟩ := exists_division more
        rw [whole]
        exact ⟨later.cons (.block span)⟩
      · exact ⟨⟨[], some pending, whole.symm⟩⟩
    · obtain ⟨later⟩ := exists_division rest
      exact ⟨later.cons (.line row opened)⟩
termination_by rows.length
decreasing_by
  · exact shorter
  · exact Nat.lt_succ_self rest.length

/-! ## There is one division -/

theorem breakAt_span [∀ opening row, Decidable (closes opening row)] (span : Span opens closes)
    (more : List Text) :
    Rules.breakAt (fun row => decide (closes span.opening row))
        (span.inside ++ span.closing :: more) =
      some (span.inside, span.closing, more) := by
  refine Rules.breakAt_eq_some_iff.mpr ⟨rfl, decide_eq_true span.closed, ?_⟩
  intro row member
  exact decide_eq_false (span.open_inside row member)

/-- Blocks at the start of the same lines are the same. -/
theorem span_append_inj {first second : Span opens closes} {more others : List Text}
    (same : first.rows ++ more = second.rows ++ others) : first = second ∧ more = others := by
  classical
  have left := breakAt_span first more
  have right := breakAt_span second others
  simp only [Span.rows, List.cons_append, List.append_assoc, List.nil_append,
    List.cons.injEq] at same
  obtain ⟨opening, tail⟩ := same
  rw [opening, tail, right] at left
  cases first
  cases second
  dsimp only at opening left
  cases opening
  cases left
  exact ⟨rfl, rfl⟩

/-- A block with an end is not the start of one without. -/
theorem span_append_ne_pending (span : Span opens closes) (more : List Text)
    (pending : Pending opens closes) : span.rows ++ more ≠ pending.rows := by
  intro same
  simp only [Span.rows, Pending.rows, List.cons_append, List.append_assoc, List.nil_append,
    List.cons.injEq] at same
  obtain ⟨opening, tail⟩ := same
  have within : span.closing ∈ pending.inside := by
    rw [← tail]
    exact List.mem_append_right _ List.mem_cons_self
  refine pending.open_inside _ within ?_
  rw [← opening]
  exact span.closed

theorem pending_rows_inj {first second : Pending opens closes} (same : first.rows = second.rows) :
    first = second := by
  obtain ⟨opening, inside⟩ := List.cons.inj same
  cases first
  cases second
  cases opening
  cases inside
  rfl

theorem part_rows_ne_nil (part : Part opens closes) : part.rows ≠ [] := by
  cases part with
  | line row plain => exact List.cons_ne_nil _ _
  | block span => exact List.cons_ne_nil _ _

theorem part_append_inj {first second : Part opens closes} {more others : List Text}
    (same : first.rows ++ more = second.rows ++ others) : first = second ∧ more = others := by
  cases first with
  | line row plain =>
    cases second with
    | line other _ =>
      obtain ⟨rfl, rest⟩ := List.cons.inj same
      exact ⟨rfl, rest⟩
    | block span =>
      obtain ⟨rfl, -⟩ := List.cons.inj same
      exact absurd span.opened plain
  | block span =>
    cases second with
    | line other plain =>
      obtain ⟨opening, -⟩ := List.cons.inj same
      rw [← opening] at plain
      exact absurd span.opened plain
    | block another =>
      obtain ⟨rfl, rest⟩ := span_append_inj same
      exact ⟨rfl, rest⟩

theorem part_append_ne_pending (part : Part opens closes) (more : List Text)
    (pending : Pending opens closes) : part.rows ++ more ≠ pending.rows := by
  cases part with
  | line row plain =>
    intro same
    obtain ⟨rfl, -⟩ := List.cons.inj same
    exact plain pending.opened
  | block span => exact span_append_ne_pending span more pending

/-- The parts are settled by the lines that they make up. -/
theorem parts_inj {first second : List (Part opens closes)}
    {left right : Option (Pending opens closes)}
    (same : first.flatMap Part.rows ++ left.elim [] Pending.rows =
      second.flatMap Part.rows ++ right.elim [] Pending.rows) : first = second ∧ left = right := by
  induction first generalizing second with
  | nil =>
    cases second with
    | nil =>
      refine ⟨rfl, ?_⟩
      cases left with
      | none =>
        cases right with
        | none => rfl
        | some pending => cases same
      | some pending =>
        cases right with
        | none => cases same
        | some another => exact congrArg some (pending_rows_inj same)
    | cons part second =>
      rw [List.flatMap_cons, List.append_assoc] at same
      cases left with
      | none => exact absurd (List.append_eq_nil_iff.mp same.symm).1 (part_rows_ne_nil part)
      | some pending => exact absurd same.symm (part_append_ne_pending part _ pending)
  | cons part first ih =>
    rw [List.flatMap_cons, List.append_assoc] at same
    cases second with
    | nil =>
      cases right with
      | none => exact absurd (List.append_eq_nil_iff.mp same).1 (part_rows_ne_nil part)
      | some pending => exact absurd same (part_append_ne_pending part _ pending)
    | cons another second =>
      rw [List.flatMap_cons, List.append_assoc] at same
      obtain ⟨rfl, rest⟩ := part_append_inj same
      obtain ⟨rfl, rfl⟩ := ih rest
      exact ⟨rfl, rfl⟩

/-- There is one division at most. -/
instance : Subsingleton (Division opens closes rows) := by
  constructor
  intro division other
  obtain ⟨parts, pending⟩ := parts_inj (division.rows_eq.trans other.rows_eq.symm)
  cases division
  cases other
  cases parts
  cases pending
  rfl

end Division

end ParserRefresh
