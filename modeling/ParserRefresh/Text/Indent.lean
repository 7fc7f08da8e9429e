import ParserRefresh.Text.Lines

/-! # Indentation

The indentation of a line is its longest start of spaces and tabs. Lines are indented by putting
a text in front of those that are not blank, and the indentation that several lines share is the
longest common start of the indentations of the lines that are not blank. -/

namespace ParserRefresh.Text

def isIndent (c : Char) : Bool := c == ' ' || c == '\t'

/-- The spaces and tabs at the start of a line. -/
def leading (line : Text) : Text := line.takeWhile isIndent

/-- A line with `indent` in front, or the empty line for a blank one. -/
def indentLine (indent line : Text) : Text := if isBlank line then [] else indent ++ line

/-- Indents every line that is not blank and empties every blank one. -/
def indentLines (indent : Text) (rows : List Text) : List Text := rows.map (indentLine indent)

def commonStart : Text → Text → Text
  | c :: left, d :: right => if c = d then c :: commonStart left right else []
  | _, _ => []

/-- The indentation shared so far, joined with the indentation of one more line. -/
def shareIndent (shared : Option Text) (line : Text) : Option Text :=
  if isBlank line then shared
  else match shared with
    | none => some (leading line)
    | some current => some (commonStart current (leading line))

/-- The longest indentation that every line that is not blank starts with. -/
def commonIndent (rows : List Text) : Text := (rows.foldl shareIndent none).getD []

end ParserRefresh.Text
