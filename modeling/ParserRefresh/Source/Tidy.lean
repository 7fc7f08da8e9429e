import ParserRefresh.Text.Lines

/-! # Tidy text

White space at the end of a line is dropped, and so are the blank lines right above a line that
holds a closing brace only. When only blank lines stand above such a line, one of them stays. -/

namespace ParserRefresh.Tidy

/-- The lines so far, the latest first, without the blank ones at their end; if all are blank,
one stays. -/
def closeGap (kept : List Text) : List Text :=
  match kept.dropWhile List.isEmpty with
  | [] => kept.take 1
  | content => content

/-- The lines so far, the latest first, and one more. -/
def addLine (kept : List Text) (line : Text) : List Text :=
  let line := Text.trimEnd line
  if Text.trimStart line = ['}'] then line :: closeGap kept else line :: kept

def tidy (text : Text) : Text :=
  Text.unlines ((Text.lines text).foldl addLine []).reverse

end ParserRefresh.Tidy
