import ParserRefresh.Text.Basic

/-! # Cutting a text at a character

A text is cut at every occurrence of a separator, so there is always at least one piece, and
joining the pieces again gives the text back. The lines of a text are its pieces at newlines.
Readers of program output cut differently: there a newline ends a line, together with a carriage
return before it. -/

namespace ParserRefresh.Text

def pushFront (separator c : Char) (pieces : List Text) : List Text :=
  if c = separator then [] :: pieces
  else match pieces with
    | [] => [[c]]
    | piece :: rest => (c :: piece) :: rest

/-- The pieces of a text between its separators. -/
def split (separator : Char) (text : Text) : List Text := text.foldr (pushFront separator) [[]]

def join (separator : Char) : List Text → Text
  | [] => []
  | [piece] => piece
  | piece :: rest => piece ++ separator :: join separator rest

def lines (text : Text) : List Text := split '\n' text

def unlines (rows : List Text) : Text := join '\n' rows

/-- Drops one carriage return at the end of a line. -/
def dropReturn (line : Text) : Text :=
  if line.getLast? = some '\r' then line.dropLast else line

/-- The lines of a program's output: a newline ends a line, with the carriage return before it,
and nothing after the last newline is no line. -/
def outputLines (text : Text) : List Text :=
  let cut := lines text
  let ended := cut.dropLast.map dropReturn
  match cut.getLast? with
  | none => ended
  | some last => if last.isEmpty then ended else ended ++ [last]

@[simp] theorem split_nil (separator : Char) : split separator [] = [[]] := rfl

theorem split_cons (separator c : Char) (text : Text) :
    split separator (c :: text) = pushFront separator c (split separator text) := rfl

@[simp] theorem split_separator (separator : Char) (text : Text) :
    split separator (separator :: text) = [] :: split separator text := by
  simp [split_cons, pushFront]

theorem split_ne_nil (separator : Char) (text : Text) : split separator text ≠ [] := by
  induction text with
  | nil => simp
  | cons c text _ =>
    rw [split_cons]
    unfold pushFront
    split
    · simp
    · split <;> simp

@[simp] theorem join_singleton (separator : Char) (piece : Text) : join separator [piece] = piece :=
  rfl

theorem join_cons {separator : Char} {rest : List Text} (piece : Text) (more : rest ≠ []) :
    join separator (piece :: rest) = piece ++ separator :: join separator rest := by
  cases rest with
  | nil => exact absurd rfl more
  | cons next rest => rfl

theorem join_split (separator : Char) (text : Text) : join separator (split separator text) = text := by
  induction text with
  | nil => rfl
  | cons c text ih =>
    rw [split_cons]
    unfold pushFront
    split
    · next same => rw [join_cons _ (split_ne_nil separator text), ih, same]; rfl
    · match cut : split separator text with
      | [] => exact absurd cut (split_ne_nil separator text)
      | [piece] => rw [cut] at ih; simp only [join_singleton] at ih ⊢; rw [ih]
      | piece :: next :: rest =>
        rw [cut, join_cons piece (by simp)] at ih
        rw [join_cons _ (by simp), ← ih]; rfl

theorem unlines_lines (text : Text) : unlines (lines text) = text := join_split '\n' text

theorem lines_ne_nil (text : Text) : lines text ≠ [] := split_ne_nil '\n' text

end ParserRefresh.Text
