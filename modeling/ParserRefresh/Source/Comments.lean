import ParserRefresh.Text.Lines

/-! # Line comments

A line is read from the left into lexemes: raw strings, strings, the literal of the quote
character, and single characters. A comment starts where the next lexeme would begin with two
slashes. A string that is not closed on its line hides the rest of it. -/

namespace ParserRefresh.Comments

def isIdent (c : Char) : Bool := c == '_' || c.isAlphanum

/-- Whether a raw string may open after the characters `before`, the latest first: the `r` may
have a `b` in front but neither may end an identifier. -/
def mayOpenRaw : Text → Bool
  | 'b' :: before => !before.head?.any isIdent
  | before => !before.head?.any isIdent

def rawOpening? : Text → Option (Text × Text)
  | 'r' :: text =>
    match text.dropWhile (· == '#') with
    | '"' :: body => some (text.takeWhile (· == '#'), body)
    | _ => none
  | _ => none

/-- The body of a raw string with its closing quote and hashes, and the text after it. -/
def closeRaw (hashes : Text) : Text → Option (Text × Text)
  | [] => none
  | c :: text =>
    if c = '"' ∧ hashes.isPrefixOf text then some ('"' :: hashes, text.drop hashes.length)
    else (closeRaw hashes text).map (fun (taken, rest) => (c :: taken, rest))

def closeString : Text → Option (Text × Text)
  | [] => none
  | ['\\'] => none
  | '\\' :: c :: text => (closeString text).map (fun (taken, rest) => ('\\' :: c :: taken, rest))
  | '"' :: text => some (['"'], text)
  | c :: text => (closeString text).map (fun (taken, rest) => (c :: taken, rest))

/-- What stands at a place of a line. -/
inductive Lexeme where
  /-- A comment. -/
  | comment
  /-- A string that is never closed. -/
  | unclosed
  /-- Text to pass over, and what follows it. -/
  | passed (taken rest : Text)
  deriving DecidableEq

/-- A string with its opening, or the finding that it is never closed. -/
def Lexeme.ofString (opening : Text) : Option (Text × Text) → Lexeme
  | none => .unclosed
  | some (taken, rest) => .passed (opening ++ taken) rest

/-- Reads what stands after the characters `before`, the latest first, on a line that goes on
with `c` and `text`. -/
def Lexeme.read (before : Text) (c : Char) (text : Text) : Lexeme :=
  match if mayOpenRaw before then rawOpening? (c :: text) else none with
  | some (hashes, body) => .ofString ('r' :: hashes ++ ['"']) (closeRaw hashes body)
  | none =>
    match c, text with
    | '"', _ => .ofString ['"'] (closeString text)
    | '\'', '"' :: '\'' :: rest => .passed ['\'', '"', '\''] rest
    | '/', '/' :: _ => .comment
    | _, _ => .passed [c] text

theorem closeRaw_append {hashes text taken rest : Text}
    (closed : closeRaw hashes text = some (taken, rest)) : taken ++ rest = text := by
  induction text generalizing taken rest with
  | nil => simp [closeRaw] at closed
  | cons c text ih =>
    rw [closeRaw] at closed
    split at closed
    · next found =>
      obtain ⟨rfl, start⟩ := found
      obtain ⟨tail, rfl⟩ := List.isPrefixOf_iff_prefix.mp start
      simp only [Option.some.injEq, Prod.mk.injEq] at closed
      obtain ⟨rfl, rfl⟩ := closed
      simp
    · obtain ⟨⟨inner, after⟩, found, same⟩ := Option.map_eq_some_iff.mp closed
      simp only [Prod.mk.injEq] at same
      obtain ⟨rfl, rfl⟩ := same
      simp [ih found]

theorem closeString_append {text taken rest : Text}
    (closed : closeString text = some (taken, rest)) : taken ++ rest = text := by
  fun_induction closeString text generalizing taken rest with
  | case1 => simp at closed
  | case2 => simp at closed
  | case3 c text ih =>
    obtain ⟨⟨inner, after⟩, found, same⟩ := Option.map_eq_some_iff.mp closed
    simp only [Prod.mk.injEq] at same
    obtain ⟨rfl, rfl⟩ := same
    simp [ih found]
  | case4 text =>
    simp only [Option.some.injEq, Prod.mk.injEq] at closed
    obtain ⟨rfl, rfl⟩ := closed
    rfl
  | case5 c text _ _ _ ih =>
    obtain ⟨⟨inner, after⟩, found, same⟩ := Option.map_eq_some_iff.mp closed
    simp only [Prod.mk.injEq] at same
    obtain ⟨rfl, rfl⟩ := same
    simp [ih found]

theorem rawOpening?_append {text hashes body : Text} (opened : rawOpening? text = some (hashes, body)) :
    'r' :: hashes ++ '"' :: body = text := by
  unfold rawOpening? at opened
  split at opened
  · next text =>
    have whole := List.takeWhile_append_dropWhile (p := (· == '#')) (l := text)
    split at opened
    · next found =>
      simp only [Option.some.injEq, Prod.mk.injEq] at opened
      obtain ⟨rfl, rfl⟩ := opened
      rw [found] at whole
      simpa using whole
    · simp at opened
  · simp at opened

/-- What is passed over and what follows it make up the text that was read. -/
theorem Lexeme.read_append {before text taken rest : Text} {c : Char}
    (passed : Lexeme.read before c text = .passed taken rest) :
    taken ≠ [] ∧ taken ++ rest = c :: text := by
  unfold Lexeme.read at passed
  split at passed
  · next hashes body opened =>
    split at opened
    · have whole := rawOpening?_append opened
      unfold Lexeme.ofString at passed
      split at passed
      · simp at passed
      · next inner after closed =>
        simp only [Lexeme.passed.injEq] at passed
        obtain ⟨rfl, rfl⟩ := passed
        have body := closeRaw_append closed
        subst body
        exact ⟨by simp, by rw [← whole]; simp⟩
    · simp at opened
  · split at passed
    · unfold Lexeme.ofString at passed
      split at passed
      · simp at passed
      · next inner after closed =>
        simp only [Lexeme.passed.injEq] at passed
        obtain ⟨rfl, rfl⟩ := passed
        exact ⟨by simp, by simp [closeString_append closed]⟩
    · simp only [Lexeme.passed.injEq] at passed
      obtain ⟨rfl, rfl⟩ := passed
      exact ⟨by simp, rfl⟩
    · simp at passed
    · simp only [Lexeme.passed.injEq] at passed
      obtain ⟨rfl, rfl⟩ := passed
      exact ⟨by simp, rfl⟩

theorem Lexeme.read_shorter {before text taken rest : Text} {c : Char}
    (passed : Lexeme.read before c text = .passed taken rest) :
    rest.length < (c :: text).length := by
  obtain ⟨some, whole⟩ := Lexeme.read_append passed
  have size := congrArg List.length whole
  have positive := List.length_pos_iff.mpr some
  simp only [List.length_append] at size
  omega

/-- The code and the comment of the rest of a line, where `before` is its part that has been
read, the latest character first. -/
def splitFrom (before : Text) : Text → Option (Text × Text)
  | [] => none
  | c :: text =>
    match _passed : Lexeme.read before c text with
    | .comment => some (before.reverse, c :: text)
    | .unclosed => none
    | .passed taken rest => splitFrom (taken.reverse ++ before) rest
termination_by line => line.length
decreasing_by exact Lexeme.read_shorter _passed

def split? (line : Text) : Option (Text × Text) := splitFrom [] line

/-- Whether a comment begins with one of the texts that keep it. -/
def isKept (kept : List Text) (comment : Text) : Bool :=
  kept.any (fun start => start.isPrefixOf comment)

/-- A line without its comment, or nothing if the comment was all it held. A line whose comment
is kept stays as it is. -/
def stripLine (kept : List Text) (line : Text) : Option Text :=
  match split? line with
  | none => some line
  | some (code, comment) =>
    if isKept kept comment then some line
    else if Text.isBlank code then none
    else some (Text.trimEnd code)

def strip (kept : List Text) (text : Text) : Text :=
  Text.unlines ((Text.lines text).filterMap (stripLine kept))

end ParserRefresh.Comments
