import ParserRefresh.Proofs.CommentScan

/-! # Readings of code

What stands in front of a comment can be read from the left, piece by piece: raw strings, strings,
the literal of the quote character, and single characters that open none of these. Where a comment
starts is settled by such a reading, and a line has no comment when its reading comes to the end of
the line or to a string that is never closed. -/

namespace ParserRefresh.Comments

open Text

/-! ## Pieces of code -/

def rawEnd (hashes : Nat) : Text := '"' :: List.replicate hashes '#'

def rawStart (hashes : Nat) : Text := 'r' :: List.replicate hashes '#' ++ ['"']

/-- Text without a quote, but for quotes that are hidden: a backslash hides the next character. -/
inductive Escaped : Text → Prop where
  | nil : Escaped []
  | plain {c : Char} {text : Text} (noQuote : c ≠ '"') (noEscape : c ≠ '\\')
      (others : Escaped text) : Escaped (c :: text)
  | hidden (c : Char) {text : Text} (others : Escaped text) : Escaped ('\\' :: c :: text)

/-- Whether a raw string opens at the beginning of a text that stands behind `before`. -/
def OpensRaw (before text : Text) : Prop :=
  mayOpenRaw before.reverse = true ∧ ∃ hashes, rawStart hashes <+: text

/-- What one piece of code takes behind `before`, and what is left of the line then. -/
inductive Piece (before : Text) : Text → Text → Prop where
  /-- A raw string ends with the first quote that has enough hashes behind it. -/
  | raw {hashes : Nat} {body : Text} (may : mayOpenRaw before.reverse = true)
      (first : ¬ rawEnd hashes <:+: body) (rest : Text) :
      Piece before (rawStart hashes ++ body ++ rawEnd hashes) rest
  | string {body : Text} (escaped : Escaped body) (rest : Text) :
      Piece before ('"' :: body ++ ['"']) rest
  | quoteLiteral (rest : Text) : Piece before ['\'', '"', '\''] rest
  /-- A character that opens nothing stands for itself. -/
  | single {c : Char} {rest : Text} (noString : c ≠ '"') (noRaw : ¬ OpensRaw before (c :: rest))
      (noLiteral : ¬ ['\'', '"', '\''] <+: c :: rest) (noComment : ¬ ['/', '/'] <+: c :: rest) :
      Piece before [c] rest

/-- A string opens behind `before` and is never closed. -/
inductive Unclosed (before : Text) : Text → Prop where
  | raw {hashes : Nat} {body : Text} (may : mayOpenRaw before.reverse = true)
      (never : ¬ rawEnd hashes <:+: body) : Unclosed before (rawStart hashes ++ body)
  | string {body : Text} (never : ∀ inner rest, Escaped inner → body ≠ inner ++ '"' :: rest) :
      Unclosed before ('"' :: body)

/-- A line has been read up to some place: `code` is made of pieces, and `rest` is left. -/
inductive Reading (line : Text) : Text → Text → Prop where
  | start : Reading line [] line
  | step {code taken rest : Text} (earlier : Reading line code (taken ++ rest))
      (piece : Piece code taken rest) : Reading line (code ++ taken) rest

variable {hashes : Nat} {before line text code taken rest : Text} {c : Char}

theorem Reading.append_eq (reading : Reading line code rest) : code ++ rest = line := by
  induction reading with
  | start => rfl
  | step _ _ ih => rw [List.append_assoc, ih]

/-! ## Where strings end -/

theorem rawEnd_prefix_cons :
    rawEnd hashes <+: c :: text ↔ c = '"' ∧ (List.replicate hashes '#').isPrefixOf text = true := by
  rw [rawEnd, List.cons_prefix_cons, List.isPrefixOf_iff_prefix, eq_comm]

/-- A raw string is never closed exactly if no quote in it has enough hashes behind it. -/
theorem closeRaw_eq_none_iff :
    closeRaw (List.replicate hashes '#') text = none ↔ ¬ rawEnd hashes <:+: text := by
  induction text with
  | nil => simp [closeRaw, rawEnd]
  | cons c text ih =>
    rw [closeRaw, List.infix_cons_iff, rawEnd_prefix_cons, not_or, ← ih]
    split
    · next closed => simp [closed]
    · next other => rw [Option.map_eq_none_iff, and_iff_right other]

theorem exists_of_closeRaw
    (closed : closeRaw (List.replicate hashes '#') text = some (taken, rest)) :
    ∃ body, ¬ rawEnd hashes <:+: body ∧ taken = body ++ rawEnd hashes := by
  induction text generalizing taken rest with
  | nil => cases closed
  | cons c text ih =>
    rw [closeRaw] at closed
    split at closed
    · cases closed
      exact ⟨[], by simp [rawEnd], rfl⟩
    · next other =>
      obtain ⟨⟨inner, after⟩, found, same⟩ := Option.map_eq_some_iff.mp closed
      cases same
      obtain ⟨body, first, rfl⟩ := ih found
      refine ⟨c :: body, ?_, rfl⟩
      rw [List.infix_cons_iff, rawEnd_prefix_cons, not_or]
      refine ⟨fun early => other ⟨early.1, ?_⟩, first⟩
      obtain ⟨tail, whole⟩ := List.isPrefixOf_iff_prefix.mp early.2
      rw [← closeRaw_append found, ← whole]
      simp [List.isPrefixOf_iff_prefix]

/-- A quote inside of a raw string that lacks hashes does not find them in the closing. -/
theorem closeRaw_of_body {body : Text} (first : ¬ rawEnd hashes <:+: body) (rest : Text) :
    closeRaw (List.replicate hashes '#') (body ++ rawEnd hashes ++ rest) =
      some (body ++ rawEnd hashes, rest) := by
  induction body with
  | nil =>
    have closes :
        (List.replicate hashes '#').isPrefixOf (List.replicate hashes '#' ++ rest) = true :=
      List.isPrefixOf_iff_prefix.mpr (List.prefix_append _ _)
    rw [rawEnd, List.nil_append, List.cons_append, closeRaw, if_pos ⟨rfl, closes⟩]
    simp
  | cons c body ih =>
    rw [List.infix_cons_iff, rawEnd_prefix_cons, not_or] at first
    have inside : ¬ (c = '"' ∧
        (List.replicate hashes '#').isPrefixOf (body ++ rawEnd hashes ++ rest) = true) := by
      rintro ⟨quote, longer⟩
      have shorter : (List.replicate hashes '#').isPrefixOf body = false :=
        Bool.eq_false_iff.mpr (fun there => first.1 ⟨quote, there⟩)
      rw [List.append_assoc] at longer
      obtain ⟨⟨after, whole⟩, size⟩ := length_lt_of_isPrefixOf longer shorter
      rw [← whole, List.isPrefixOf_iff_prefix, List.prefix_append_right_inj] at longer
      cases after with
      | nil => simp [← whole] at size
      | cons d after =>
        have mark : d ∈ List.replicate hashes '#' := by simp [← whole]
        rw [List.eq_of_mem_replicate mark] at longer
        cases (List.cons_prefix_cons.mp longer).1
    rw [List.cons_append, List.cons_append, closeRaw, if_neg inside, ih first.2]
    rfl

theorem exists_of_closeString (closed : closeString text = some (taken, rest)) :
    ∃ body, Escaped body ∧ taken = body ++ ['"'] := by
  fun_induction closeString text generalizing taken rest with
  | case1 => cases closed
  | case2 => cases closed
  | case3 c text ih =>
    obtain ⟨⟨inner, after⟩, found, same⟩ := Option.map_eq_some_iff.mp closed
    cases same
    obtain ⟨body, escaped, rfl⟩ := ih found
    exact ⟨'\\' :: c :: body, .hidden c escaped, rfl⟩
  | case4 text =>
    cases closed
    exact ⟨[], .nil, rfl⟩
  | case5 c text last escape noQuote ih =>
    obtain ⟨⟨inner, after⟩, found, same⟩ := Option.map_eq_some_iff.mp closed
    cases same
    obtain ⟨body, escaped, rfl⟩ := ih found
    exact ⟨c :: body, .plain noQuote (ne_escape last escape) escaped, rfl⟩

theorem closeString_of_escaped {body : Text} (escaped : Escaped body) (rest : Text) :
    closeString (body ++ '"' :: rest) = some (body ++ ['"'], rest) := by
  induction escaped with
  | nil => rfl
  | plain noQuote noEscape _ ih =>
    rw [List.cons_append, closeString_cons noEscape noQuote, ih]
    rfl
  | hidden c _ ih =>
    rw [List.cons_append, List.cons_append, closeString, ih]
    rfl

theorem closeString_eq_none_iff :
    closeString text = none ↔ ∀ inner rest, Escaped inner → text ≠ inner ++ '"' :: rest := by
  constructor
  · rintro never inner rest escaped rfl
    rw [closeString_of_escaped escaped] at never
    cases never
  · intro never
    cases closed : closeString text with
    | none => rfl
    | some parts =>
      obtain ⟨taken, rest⟩ := parts
      obtain ⟨inner, escaped, rfl⟩ := exists_of_closeString closed
      have whole := closeString_append closed
      rw [List.append_assoc] at whole
      exact absurd whole.symm (never inner rest escaped)

/-! ## Lexemes and pieces -/

theorem rawOpening?_rawStart (hashes : Nat) (body : Text) :
    rawOpening? (rawStart hashes ++ body) = some (List.replicate hashes '#', body) := by
  refine rawOpening?_eq_some_iff.mpr ⟨fun c member => List.eq_of_mem_replicate member, ?_⟩
  simp [rawStart]

theorem exists_of_rawOpening? {marks body : Text} (opened : rawOpening? text = some (marks, body)) :
    ∃ hashes, marks = List.replicate hashes '#' ∧ text = rawStart hashes ++ body := by
  obtain ⟨all, whole⟩ := rawOpening?_eq_some_iff.mp opened
  have same := List.eq_replicate_of_mem all
  refine ⟨marks.length, same, ?_⟩
  rw [whole, rawStart, ← same]
  simp

theorem opensRaw_iff :
    OpensRaw before text ↔
      mayOpenRaw before.reverse = true ∧ (rawOpening? text).isSome = true := by
  refine and_congr_right fun _ => ⟨?_, fun opened => ?_⟩
  · rintro ⟨hashes, body, rfl⟩
    rw [rawOpening?_rawStart, Option.isSome_some]
  · obtain ⟨parts, found⟩ := Option.isSome_iff_exists.mp opened
    obtain ⟨hashes, -, rfl⟩ := exists_of_rawOpening? found
    exact ⟨hashes, List.prefix_append _ _⟩

instance : Decidable (OpensRaw before text) := decidable_of_iff' _ opensRaw_iff

theorem Lexeme.read_rawStart (may : mayOpenRaw before.reverse = true) (body : Text) :
    Lexeme.read before.reverse 'r' (List.replicate hashes '#' ++ '"' :: body) =
      .ofString (rawStart hashes) (closeRaw (List.replicate hashes '#') body) := by
  have opened := rawOpening?_rawStart hashes body
  simp only [rawStart, List.cons_append, List.append_assoc, List.nil_append] at opened
  rw [Lexeme.read_eq_ofString may opened, rawStart]

theorem Lexeme.read_of_not_opensRaw (noRaw : ¬ OpensRaw before (c :: text)) :
    Lexeme.read before.reverse c text = Lexeme.readPlain c text := by
  refine Lexeme.read_eq_readPlain fun may => ?_
  cases opened : rawOpening? (c :: text) with
  | none => rfl
  | some parts => exact absurd (opensRaw_iff.mpr ⟨may, by rw [opened]; rfl⟩) noRaw

theorem not_opensRaw_of_ne (other : c ≠ 'r') : ¬ OpensRaw before (c :: text) := by
  rintro ⟨-, hashes, opening⟩
  exact other (List.cons_prefix_cons.mp opening).1.symm

/-- Each piece of code is passed over as one lexeme. -/
theorem Piece.read (piece : Piece before taken rest) :
    ∃ c text, taken ++ rest = c :: text ∧
      Lexeme.read before.reverse c text = .passed taken rest := by
  cases piece with
  | @raw hashes body may first =>
    refine ⟨'r', List.replicate hashes '#' ++ '"' :: (body ++ rawEnd hashes ++ rest), ?_, ?_⟩
    · simp [rawStart]
    · rw [Lexeme.read_rawStart may, closeRaw_of_body first, Lexeme.ofString, List.append_assoc]
  | @string body escaped =>
    refine ⟨'"', body ++ '"' :: rest, by simp, ?_⟩
    rw [Lexeme.read_of_not_opensRaw (not_opensRaw_of_ne (by decide)), Lexeme.readPlain,
      closeString_of_escaped escaped]
    rfl
  | quoteLiteral =>
    refine ⟨'\'', '"' :: '\'' :: rest, rfl, ?_⟩
    rw [Lexeme.read_of_not_opensRaw (not_opensRaw_of_ne (by decide))]
    rfl
  | @single c _ noString noRaw noLiteral noComment =>
    refine ⟨c, rest, rfl, ?_⟩
    rw [Lexeme.read_of_not_opensRaw noRaw]
    by_cases apostrophe : c = '\''
    · subst apostrophe
      rw [List.cons_prefix_cons, and_iff_right rfl, ← List.isPrefixOf_iff_prefix] at noLiteral
      rw [Lexeme.readPlain_apostrophe, if_neg noLiteral]
    by_cases slash : c = '/'
    · subst slash
      rw [List.cons_prefix_cons, and_iff_right rfl, ← List.isPrefixOf_iff_prefix] at noComment
      rw [Lexeme.readPlain_slash, if_neg noComment]
    · exact Lexeme.readPlain_single noString apostrophe slash rest

/-- A string that is never closed is one lexeme, too. -/
theorem Unclosed.read (unclosed : Unclosed before text) :
    ∃ c after, text = c :: after ∧ Lexeme.read before.reverse c after = .unclosed := by
  cases unclosed with
  | @raw hashes body may never =>
    refine ⟨'r', List.replicate hashes '#' ++ '"' :: body, by simp [rawStart], ?_⟩
    rw [Lexeme.read_rawStart may, closeRaw_eq_none_iff.mpr never]
    rfl
  | @string body never =>
    refine ⟨'"', body, rfl, ?_⟩
    rw [Lexeme.read_of_not_opensRaw (not_opensRaw_of_ne (by decide)), Lexeme.readPlain,
      closeString_eq_none_iff.mpr never]
    rfl

theorem Lexeme.read_slashes (before text : Text) :
    Lexeme.read before.reverse '/' ('/' :: text) = .comment := by
  rw [Lexeme.read_of_not_opensRaw (not_opensRaw_of_ne (by decide))]
  rfl

/-- What a lexeme tells about the text that stands behind some code. -/
def Lexeme.Describes (before text : Text) : Lexeme → Prop
  | .comment => ['/', '/'] <+: text
  | .unclosed => Unclosed before text
  | .passed taken rest => taken ++ rest = text ∧ Piece before taken rest

theorem Lexeme.describes_readPlain (noRaw : ¬ OpensRaw before (c :: text)) :
    (Lexeme.readPlain c text).Describes before (c :: text) := by
  by_cases quote : c = '"'
  · subst quote
    rw [Lexeme.readPlain]
    cases closed : closeString text with
    | none => exact .string (closeString_eq_none_iff.mp closed)
    | some parts =>
      obtain ⟨taken, rest⟩ := parts
      obtain ⟨body, escaped, rfl⟩ := exists_of_closeString closed
      exact ⟨congrArg ('"' :: ·) (closeString_append closed), .string escaped rest⟩
  by_cases literal : ['\'', '"', '\''] <+: c :: text
  · obtain ⟨rest, whole⟩ := literal
    cases whole
    exact ⟨rfl, .quoteLiteral rest⟩
  by_cases comment : ['/', '/'] <+: c :: text
  · obtain ⟨rest, whole⟩ := comment
    cases whole
    exact List.prefix_append ['/', '/'] rest
  · obtain ⟨d, after, whole, read⟩ := (Piece.single quote noRaw literal comment).read
    cases whole
    have plain := (Lexeme.read_of_not_opensRaw noRaw).symm.trans read
    rw [plain]
    exact ⟨rfl, .single quote noRaw literal comment⟩

/-- What is read behind some code is a comment, a string that is never closed, or a piece. -/
theorem Lexeme.describes_read (before : Text) (c : Char) (text : Text) :
    (Lexeme.read before.reverse c text).Describes before (c :: text) := by
  by_cases raw : OpensRaw before (c :: text)
  · obtain ⟨may, hashes, body, whole⟩ := raw
    have parts := whole
    simp only [rawStart, List.cons_append, List.append_assoc, List.nil_append,
      List.cons.injEq] at parts
    obtain ⟨rfl, rfl⟩ := parts
    rw [Lexeme.read_rawStart may]
    rw [← whole]
    cases closed : closeRaw (List.replicate hashes '#') body with
    | none => exact .raw may (closeRaw_eq_none_iff.mp closed)
    | some parts =>
      obtain ⟨taken, rest⟩ := parts
      obtain ⟨inner, first, rfl⟩ := exists_of_closeRaw closed
      refine ⟨?_, ?_⟩
      · rw [List.append_assoc, closeRaw_append closed]
      · rw [← List.append_assoc]
        exact .raw may first rest
  · rw [Lexeme.read_of_not_opensRaw raw]
    exact Lexeme.describes_readPlain raw

/-! ## Readings and comments -/

/-- The rest of a line behind a reading is split as the line is. -/
theorem Reading.split?_eq (reading : Reading line code rest) :
    split? line = splitFrom code.reverse rest := by
  induction reading with
  | start => rfl
  | @step code taken rest _ piece ih =>
    obtain ⟨c, text, whole, read⟩ := piece.read
    rw [ih, whole, splitFrom_cons, read, List.reverse_append]

/-- A reading has come to its end where the line ends or a string is never closed. -/
def Ends (code rest : Text) : Prop := rest = [] ∨ Unclosed code rest

theorem Reading.split?_eq_none (reading : Reading line code rest) (ends : Ends code rest) :
    split? line = none := by
  rw [reading.split?_eq]
  rcases ends with rfl | unclosed
  · rw [splitFrom]
  · obtain ⟨c, after, rfl, read⟩ := unclosed.read
    rw [splitFrom_cons, read]

theorem Reading.split?_eq_some (reading : Reading line code rest) (comment : ['/', '/'] <+: rest) :
    split? line = some (code, rest) := by
  obtain ⟨text, rfl⟩ := comment
  rw [reading.split?_eq]
  simp only [List.cons_append, List.nil_append]
  rw [splitFrom_cons, Lexeme.read_slashes, List.reverse_reverse]

/-- Every reading goes on to a comment or to an end. -/
theorem Reading.goesOn (reading : Reading line code rest) :
    ∃ further left, Reading line further left ∧ (['/', '/'] <+: left ∨ Ends further left) := by
  induction size : rest.length using Nat.strong_induction_on generalizing code rest with
  | _ n ih =>
    cases rest with
    | nil => exact ⟨code, [], reading, .inr (.inl rfl)⟩
    | cons c text =>
      have describes := Lexeme.describes_read code c text
      cases read : Lexeme.read code.reverse c text with
      | comment =>
        rw [read] at describes
        exact ⟨code, c :: text, reading, .inl describes⟩
      | unclosed =>
        rw [read] at describes
        exact ⟨code, c :: text, reading, .inr (.inr describes)⟩
      | passed taken after =>
        rw [read] at describes
        obtain ⟨whole, piece⟩ := describes
        rw [← whole] at reading
        exact ih after.length (size ▸ Lexeme.read_shorter read) (.step reading piece) rfl

/-- A line is split in front of a comment that a reading comes to. -/
theorem split?_eq_some_iff {comment : Text} :
    split? line = some (code, comment) ↔ Reading line code comment ∧ ['/', '/'] <+: comment := by
  constructor
  · intro split
    obtain ⟨further, left, reading, slashes | ends⟩ :=
      Reading.goesOn (.start : Reading line [] line)
    · have same := split.symm.trans (reading.split?_eq_some slashes)
      cases same
      exact ⟨reading, slashes⟩
    · rw [reading.split?_eq_none ends] at split
      cases split
  · rintro ⟨reading, slashes⟩
    exact reading.split?_eq_some slashes

/-- A line is not split when a reading comes to an end. -/
theorem split?_eq_none_iff :
    split? line = none ↔ ∃ code rest, Reading line code rest ∧ Ends code rest := by
  constructor
  · intro none
    obtain ⟨further, left, reading, slashes | ends⟩ :=
      Reading.goesOn (.start : Reading line [] line)
    · rw [reading.split?_eq_some slashes] at none
      cases none
    · exact ⟨further, left, reading, ends⟩
  · rintro ⟨code, rest, reading, ends⟩
    exact reading.split?_eq_none ends

end ParserRefresh.Comments
