import ParserRefresh.Proofs.CodeReading
import ParserRefresh.Proofs.Lines

/-! # Tokens of code

A line of code is written with tokens: strings, raw strings, literals of characters, lifetimes, and
other characters. A reading of the line takes each token as one or more pieces, unless it takes a
quote or an apostrophe for the start of something else. So a comment is cut off behind the tokens
and nowhere else, and a line without a comment stays as it is. The literal of an escaped quote is
not read as a literal: it opens a string. -/

namespace ParserRefresh.Comments

open Text

/-! ## Tokens -/

def isPlain (c : Char) : Bool := c != '"' && c != '\'' && c != '/' && c != '#'

/-- A token of a line of code. A `b` in front of a literal is a character of its own. -/
inductive Token where
  /-- A string in which a backslash hides the next character. -/
  | string (body : Text) (escaped : Escaped body)
  /-- A raw string, which ends with the first quote that has enough hashes behind it. -/
  | raw (hashes : Nat) (body : Text) (first : ¬ rawEnd hashes <:+: body)
  /-- The literal of a character that stands for itself. -/
  | literal (c : Char) (noApostrophe : c ≠ '\'') (noEscape : c ≠ '\\')
  /-- The literal of a character behind a backslash, with the rest of its number if it has one. -/
  | escape (c : Char) (number : Text) (plain : ∀ d ∈ number, isPlain d = true)
  /-- A lifetime, with the last character of its name. -/
  | lifetime (name : Text) (last : Char) (plain : ∀ d ∈ name ++ [last], isPlain d = true)
  /-- Any other character. -/
  | other (c : Char) (noQuote : c ≠ '"') (noApostrophe : c ≠ '\'')

def Token.text : Token → Text
  | .string body _ => '"' :: body ++ ['"']
  | .raw hashes body _ => rawStart hashes ++ body ++ rawEnd hashes
  | .literal c _ _ => ['\'', c, '\'']
  | .escape c number _ => ['\'', '\\', c] ++ number ++ ['\'']
  | .lifetime name last _ => '\'' :: name ++ [last]
  | .other c _ _ => [c]

def codeText (tokens : List Token) : Text := tokens.flatMap Token.text

/-- Whether a token can stand behind `code` and in front of `rest`: the `r` of a raw string ends no
identifier, and no two slashes stand outside of strings. -/
def Token.Fits (code rest : Text) : Token → Prop
  | .raw _ _ _ => mayOpenRaw code.reverse = true
  | .other c _ _ => ¬ ['/', '/'] <+: c :: rest
  | _ => True

/-- Whether a token that stands behind `code` and in front of `rest` is read as such. Its literal is
not that of an escaped quote. Behind its last apostrophe there is no string that begins with an
apostrophe, which would be taken for the literal of the quote. And it has no `r` that would be taken
for the start of a raw string. -/
def Token.Legible (code rest : Text) : Token → Prop
  | .literal c _ _ => c = '"' ∨ ¬ ['"', '\''] <+: rest
  | .escape c _ _ => c ≠ '"' ∧ ¬ ['"', '\''] <+: rest
  | .lifetime name last _ => ¬ OpensRaw (code ++ '\'' :: name) (last :: rest)
  | .other c _ _ => ¬ OpensRaw code (c :: rest)
  | _ => True

instance Token.decidableFits (code rest : Text) : (token : Token) → Decidable (token.Fits code rest)
  | .raw _ _ _ => inferInstanceAs (Decidable (mayOpenRaw code.reverse = true))
  | .other c _ _ => inferInstanceAs (Decidable (¬ ['/', '/'] <+: c :: rest))
  | .string _ _ | .literal _ _ _ | .escape _ _ _ | .lifetime _ _ _ => isTrue trivial

instance Token.decidableLegible (code rest : Text) :
    (token : Token) → Decidable (token.Legible code rest)
  | .literal c _ _ => inferInstanceAs (Decidable (c = '"' ∨ ¬ ['"', '\''] <+: rest))
  | .escape c _ _ => inferInstanceAs (Decidable (c ≠ '"' ∧ ¬ ['"', '\''] <+: rest))
  | .lifetime name last _ =>
    inferInstanceAs (Decidable (¬ OpensRaw (code ++ '\'' :: name) (last :: rest)))
  | .other c _ _ => inferInstanceAs (Decidable (¬ OpensRaw code (c :: rest)))
  | .string _ _ | .raw _ _ _ => isTrue trivial

/-- Whether all tokens of a line have some property behind `code` and in front of `rest`. -/
def Throughout (property : Text → Text → Token → Prop) (code : Text) : List Token → Text → Prop
  | [], _ => True
  | token :: tokens, rest =>
    property code (codeText tokens ++ rest) token ∧
      Throughout property (code ++ token.text) tokens rest

instance Throughout.decidable (property : Text → Text → Token → Prop)
    [∀ code rest token, Decidable (property code rest token)] (rest : Text) :
    (code : Text) → (tokens : List Token) → Decidable (Throughout property code tokens rest)
  | _, [] => isTrue trivial
  | code, token :: tokens =>
    have := Throughout.decidable property rest (code ++ token.text) tokens
    inferInstanceAs (Decidable (property code (codeText tokens ++ rest) token ∧
      Throughout property (code ++ token.text) tokens rest))

/-- The end of a line that may have a comment. -/
def commentText : Option Text → Text
  | none => []
  | some text => '/' :: '/' :: text

variable {line code rest : Text} {c d : Char}

/-! ## Characters that are read for themselves -/

/-- A raw string opens with an `r` in front of a hash or a quote. -/
theorem not_opensRaw_of_next (noHash : d ≠ '#') (noQuote : d ≠ '"') :
    ¬ OpensRaw code (c :: d :: rest) := by
  rintro ⟨-, hashes, opening⟩
  have next := (List.cons_prefix_cons.mp opening).2
  cases hashes with
  | zero => exact noQuote (List.cons_prefix_cons.mp next).1.symm
  | succ hashes => exact noHash (List.cons_prefix_cons.mp next).1.symm

theorem Reading.apostrophe (reading : Reading line code ('\'' :: rest))
    (noLiteral : ¬ ['"', '\''] <+: rest) : Reading line (code ++ ['\'']) rest := by
  refine .step reading (.single (by decide) (not_opensRaw_of_ne (by decide)) ?_ ?_)
  · rw [List.cons_prefix_cons, and_iff_right rfl]
    exact noLiteral
  · intro comment
    cases (List.cons_prefix_cons.mp comment).1

/-- A character that is no quote, no apostrophe and no slash is read for itself unless it opens a
raw string. -/
theorem Reading.character (reading : Reading line code (c :: rest)) (noQuote : c ≠ '"')
    (noApostrophe : c ≠ '\'') (noRaw : ¬ OpensRaw code (c :: rest))
    (noComment : ¬ ['/', '/'] <+: c :: rest) : Reading line (code ++ [c]) rest := by
  refine .step reading (.single noQuote noRaw (fun literal => ?_) noComment)
  exact noApostrophe (List.cons_prefix_cons.mp literal).1.symm

theorem isPlain_iff : isPlain c = true ↔ c ≠ '"' ∧ c ≠ '\'' ∧ c ≠ '/' ∧ c ≠ '#' := by
  simp [isPlain, and_assoc]

theorem Reading.plain (reading : Reading line code (c :: rest)) (plain : isPlain c = true)
    (noRaw : ¬ OpensRaw code (c :: rest)) : Reading line (code ++ [c]) rest := by
  obtain ⟨noQuote, noApostrophe, noSlash, -⟩ := isPlain_iff.mp plain
  refine reading.character noQuote noApostrophe noRaw (fun comment => ?_)
  exact noSlash (List.cons_prefix_cons.mp comment).1.symm

/-- Plain characters are read one by one in front of a character that opens nothing behind an
`r`. -/
theorem Reading.run {name : Text} (reading : Reading line code (name ++ d :: rest))
    (plain : ∀ e ∈ name, isPlain e = true) (noHash : d ≠ '#') (noQuote : d ≠ '"') :
    Reading line (code ++ name) (d :: rest) := by
  induction name generalizing code with
  | nil =>
    rw [List.append_nil]
    exact reading
  | cons c name ih =>
    have noRaw : ¬ OpensRaw code (c :: (name ++ d :: rest)) := by
      cases name with
      | nil => exact not_opensRaw_of_next noHash noQuote
      | cons e name =>
        have next := isPlain_iff.mp (plain e (List.mem_cons_of_mem _ List.mem_cons_self))
        exact not_opensRaw_of_next next.2.2.2 next.1
    have later := ih (reading.plain (plain c List.mem_cons_self) noRaw)
      (fun e member => plain e (List.mem_cons_of_mem _ member))
    rw [List.append_assoc] at later
    exact later

/-! ## Readings of tokens -/

theorem Reading.literal (reading : Reading line code ('\'' :: c :: '\'' :: rest))
    (noQuote : c ≠ '"') (noApostrophe : c ≠ '\'') (clear : ¬ ['"', '\''] <+: rest) :
    Reading line (code ++ ['\'', c, '\'']) rest := by
  have opened := reading.apostrophe fun literal => noQuote (List.cons_prefix_cons.mp literal).1.symm
  have noComment : ¬ ['/', '/'] <+: c :: '\'' :: rest := fun comment => by
    cases (List.cons_prefix_cons.mp (List.cons_prefix_cons.mp comment).2).1
  have passed := opened.character noQuote noApostrophe
    (not_opensRaw_of_next (by decide) (by decide)) noComment
  have closed := passed.apostrophe clear
  simp only [List.append_assoc, List.cons_append, List.nil_append] at closed
  exact closed

/-- What is left of an escape behind its letter begins with a character that opens nothing. -/
theorem exists_next_of_escape {number : Text} (plain : ∀ e ∈ number, isPlain e = true)
    (rest : Text) :
    ∃ next more, number ++ '\'' :: rest = next :: more ∧ next ≠ '"' ∧ next ≠ '/' ∧ next ≠ '#' := by
  cases number with
  | nil => exact ⟨'\'', rest, rfl, by decide, by decide, by decide⟩
  | cons e number =>
    obtain ⟨noQuote, -, noSlash, noHash⟩ := isPlain_iff.mp (plain e List.mem_cons_self)
    exact ⟨e, number ++ '\'' :: rest, rfl, noQuote, noSlash, noHash⟩

theorem Reading.escape {number : Text}
    (reading : Reading line code ('\'' :: '\\' :: c :: (number ++ '\'' :: rest)))
    (noQuote : c ≠ '"') (plain : ∀ e ∈ number, isPlain e = true) (clear : ¬ ['"', '\''] <+: rest) :
    Reading line (code ++ (['\'', '\\', c] ++ number ++ ['\''])) rest := by
  have opened := reading.apostrophe fun literal => by
    cases (List.cons_prefix_cons.mp literal).1
  have escaped := opened.character (by decide) (by decide) (not_opensRaw_of_ne (by decide))
    fun comment => by cases (List.cons_prefix_cons.mp comment).1
  obtain ⟨next, more, whole, noQuote', noSlash, noHash⟩ := exists_next_of_escape plain rest
  have letter : Reading line (code ++ ['\''] ++ ['\\'] ++ [c]) (number ++ '\'' :: rest) := by
    rw [whole] at escaped ⊢
    by_cases apostrophe : c = '\''
    · subst apostrophe
      exact escaped.apostrophe fun literal => noQuote' (List.cons_prefix_cons.mp literal).1.symm
    · refine escaped.character noQuote apostrophe (not_opensRaw_of_next noHash noQuote') ?_
      intro comment
      exact noSlash (List.cons_prefix_cons.mp (List.cons_prefix_cons.mp comment).2).1.symm
  have closed := (letter.run plain (by decide) (by decide)).apostrophe clear
  simp only [List.append_assoc, List.cons_append, List.nil_append] at closed ⊢
  exact closed

theorem Reading.lifetime {name : Text} {last : Char}
    (reading : Reading line code ('\'' :: (name ++ last :: rest)))
    (plain : ∀ e ∈ name ++ [last], isPlain e = true)
    (noRaw : ¬ OpensRaw (code ++ '\'' :: name) (last :: rest)) :
    Reading line (code ++ '\'' :: (name ++ [last])) rest := by
  have plainName : ∀ e ∈ name, isPlain e = true :=
    fun e member => plain e (List.mem_append_left _ member)
  have plainLast : isPlain last = true := plain last (by simp)
  obtain ⟨noQuote, -, -, noHash⟩ := isPlain_iff.mp plainLast
  have opened : Reading line (code ++ ['\'']) (name ++ last :: rest) := by
    refine reading.apostrophe fun literal => ?_
    cases name with
    | nil => exact noQuote (List.cons_prefix_cons.mp literal).1.symm
    | cons e name =>
      have first := isPlain_iff.mp (plainName e List.mem_cons_self)
      exact first.1 (List.cons_prefix_cons.mp literal).1.symm
  have passed := opened.run plainName noHash noQuote
  rw [List.append_assoc, List.singleton_append] at passed
  have closed := passed.plain plainLast noRaw
  rw [List.append_assoc, List.cons_append] at closed
  exact closed

/-- A legible token is read as itself. -/
theorem Reading.token {token : Token} (reading : Reading line code (token.text ++ rest))
    (fits : token.Fits code rest) (legible : token.Legible code rest) :
    Reading line (code ++ token.text) rest := by
  cases token with
  | string body escaped => exact .step reading (.string escaped rest)
  | raw hashes body first => exact .step reading (.raw fits first rest)
  | literal c noApostrophe noEscape =>
    by_cases quote : c = '"'
    · subst quote
      exact .step reading (.quoteLiteral rest)
    · exact reading.literal quote noApostrophe (legible.resolve_left quote)
  | escape c number plain =>
    have whole : Token.text (.escape c number plain) ++ rest =
        '\'' :: '\\' :: c :: (number ++ '\'' :: rest) := by simp [Token.text]
    rw [whole] at reading
    exact reading.escape legible.1 plain legible.2
  | lifetime name last plain =>
    have whole : Token.text (.lifetime name last plain) ++ rest =
        '\'' :: (name ++ last :: rest) := by simp [Token.text]
    rw [whole] at reading
    exact reading.lifetime plain legible
  | other c noQuote noApostrophe => exact reading.character noQuote noApostrophe legible fits

/-- Legible tokens are read to their end. -/
theorem Reading.tokens {tokens : List Token} (reading : Reading line code (codeText tokens ++ rest))
    (fits : Throughout Token.Fits code tokens rest)
    (legible : Throughout Token.Legible code tokens rest) :
    Reading line (code ++ codeText tokens) rest := by
  induction tokens generalizing code with
  | nil =>
    rw [codeText, List.flatMap_nil, List.append_nil]
    exact reading
  | cons token tokens ih =>
    have whole : codeText (token :: tokens) = token.text ++ codeText tokens := rfl
    rw [whole, List.append_assoc] at reading
    have read := ih (reading.token fits.1 legible.1) fits.2 legible.2
    rw [whole, ← List.append_assoc]
    exact read

/-! ## Stripping a line of tokens -/

theorem split?_codeText {tokens : List Token} {comment : Option Text}
    (fits : Throughout Token.Fits [] tokens (commentText comment))
    (legible : Throughout Token.Legible [] tokens (commentText comment)) :
    split? (codeText tokens ++ commentText comment) =
      comment.map fun text => (codeText tokens, '/' :: '/' :: text) := by
  have reading := Reading.tokens .start fits legible
  cases comment with
  | none => exact reading.split?_eq_none (.inl rfl)
  | some text => exact reading.split?_eq_some (List.prefix_append ['/', '/'] text)

theorem strip_of_isLine {kept : List Text} (single : IsLine line) :
    strip kept line = (stripLine kept line).getD [] := by
  rw [strip, lines_of_isLine single, List.filterMap_cons]
  cases stripLine kept line <;> rfl

/-- A line of tokens loses its comment, if it has one, with the white space in front of it, and
nothing else; it is dropped if nothing else stands on it. -/
theorem strip_codeText {tokens : List Token} {comment : Option Text}
    (single : IsLine (codeText tokens ++ commentText comment))
    (fits : Throughout Token.Fits [] tokens (commentText comment))
    (legible : Throughout Token.Legible [] tokens (commentText comment)) :
    stripLine [] (codeText tokens ++ commentText comment) =
        (match comment with
          | none => some (codeText tokens)
          | some _ =>
            if isBlank (codeText tokens) then none else some (trimEnd (codeText tokens))) ∧
      strip [] (codeText tokens ++ commentText comment) =
        match comment with
        | none => codeText tokens
        | some _ => trimEnd (codeText tokens) := by
  have split := split?_codeText fits legible
  rw [strip_of_isLine single, stripLine, split]
  cases comment with
  | none => simp [commentText]
  | some text =>
    dsimp only [Option.map_some]
    rw [isKept, List.any_nil, if_neg Bool.false_ne_true]
    cases blank : isBlank (codeText tokens) with
    | true =>
      rw [if_pos rfl, trimEnd_eq_nil_iff.mpr blank]
      exact ⟨rfl, rfl⟩
    | false =>
      rw [if_neg Bool.false_ne_true]
      exact ⟨rfl, rfl⟩

def mixedTokens : List Token :=
  [.lifetime [] 'a' (by simp [isPlain]),
   .other ' ' (by decide) (by decide),
   .string ['\\', '"', '/', '/']
     (.hidden '"' (.plain (by decide) (by decide) (.plain (by decide) (by decide) .nil))),
   .other 'b' (by decide) (by decide),
   .raw 1 ['"'] (by decide),
   .literal '"' (by decide) (by decide),
   .escape 'r' [] (by simp),
   .other '\t' (by decide) (by decide)]

theorem strip_codeText_mixedTokens :
    (IsLine (codeText mixedTokens ++ commentText (some " '\"'".toList)) ∧
      Throughout Token.Fits [] mixedTokens (commentText (some " '\"'".toList)) ∧
      Throughout Token.Legible [] mixedTokens (commentText (some " '\"'".toList))) ∧
    strip [] "'a \"\\\"//\"br#\"\"\"#'\"''\\r'\t// '\"'".toList =
      "'a \"\\\"//\"br#\"\"\"#'\"''\\r'".toList := by
  have single : IsLine (codeText mixedTokens ++ commentText (some " '\"'".toList)) := by decide
  have fits : Throughout Token.Fits [] mixedTokens (commentText (some " '\"'".toList)) := by decide
  have legible : Throughout Token.Legible [] mixedTokens (commentText (some " '\"'".toList)) := by
    decide
  exact ⟨⟨single, fits, legible⟩, (strip_codeText single fits legible).2⟩

/-! ## The literal of an escaped quote -/

/-- The quote of an escaped literal opens a string, which goes on to the next quote. What stands
behind this quote is read as code, and it may be the text of a string. -/
theorem Reading.escapedQuote {body : Text}
    (reading : Reading line code ('\'' :: '\\' :: ('"' :: body ++ ['"'] ++ rest)))
    (escaped : Escaped body) :
    Reading line (code ++ (['\'', '\\', '"'] ++ body ++ ['"'])) rest := by
  have opened := reading.apostrophe fun literal => by
    cases (List.cons_prefix_cons.mp literal).1
  have backslash := opened.character (by decide) (by decide) (not_opensRaw_of_ne (by decide))
    fun comment => by cases (List.cons_prefix_cons.mp comment).1
  have closed := Reading.step backslash (.string escaped rest)
  simp only [List.append_assoc, List.cons_append, List.nil_append] at closed ⊢
  exact closed

/-- A line is cut off in a string that stands behind the literal of an escaped quote. -/
theorem exists_strip_codeText_ne :
    ∃ tokens, codeText tokens = "f('\\\"', \"//\")".toList ∧
      Throughout Token.Fits [] tokens (commentText none) ∧
      strip [] (codeText tokens) = "f('\\\"', \"".toList ∧
      strip [] (codeText tokens) ≠ codeText tokens := by
  have front : Reading "f('\\\"', \"//\")".toList "f(".toList "'\\\"', \"//\")".toList :=
    .step (.step .start (.single (by decide) (by decide) (by decide) (by decide)))
      (.single (by decide) (by decide) (by decide) (by decide))
  have body : Escaped "', ".toList :=
    .plain (by decide) (by decide) (.plain (by decide) (by decide)
      (.plain (by decide) (by decide) .nil))
  have split := (front.escapedQuote body).split?_eq_some (by decide)
  have cut : strip [] "f('\\\"', \"//\")".toList = "f('\\\"', \"".toList := by
    rw [strip_of_isLine (by decide), stripLine, split]
    decide
  refine ⟨[.other 'f' (by decide) (by decide), .other '(' (by decide) (by decide),
    .escape '"' [] (by simp), .other ',' (by decide) (by decide),
    .other ' ' (by decide) (by decide),
    .string "//".toList (.plain (by decide) (by decide) (.plain (by decide) (by decide) .nil)),
    .other ')' (by decide) (by decide)], by decide, by decide, cut, ?_⟩
  intro same
  exact absurd (cut.symm.trans same) (by decide)

end ParserRefresh.Comments
