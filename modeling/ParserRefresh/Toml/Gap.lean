import ParserRefresh.Text.Indent
import ParserRefresh.Text.Reader

/-! # What stands between TOML values

Blanks, line ends and comments, which mean nothing by themselves, and the digits of numbers. -/

namespace ParserRefresh.Toml

def skipBlanks (text : Text) : Text := text.dropWhile Text.isIndent

def newline : Reader Unit
  | '\n' :: rest => some ((), rest)
  | '\r' :: '\n' :: rest => some ((), rest)
  | _ => none

def isPlain (c : Char) : Bool := c == '\t' || (' ' ≤ c && c != '\x7f')

def skipComment (text : Text) : Text :=
  match text with
  | '#' :: rest => rest.dropWhile isPlain
  | text => text

/-- The rest of a line that may hold a comment only, with its end. -/
def endOfLine : Reader Unit := fun text =>
  match skipComment (skipBlanks text) with
  | [] => some ((), [])
  | text => newline text

/-- Something between values that means nothing: a blank, or a line end with a comment before
it. -/
def gap : Reader Unit
  | ' ' :: rest | '\t' :: rest => some ((), rest)
  | text => newline (skipComment text)

def skipGaps (text : Text) : Text := (Reader.many gap text).2

def decimalDigit? (c : Char) : Option Nat :=
  if c.isDigit then some (c.toNat - '0'.toNat) else none

def hexDigit? (c : Char) : Option Nat :=
  if c.isDigit then some (c.toNat - '0'.toNat)
  else if 'a' ≤ c ∧ c ≤ 'f' then some (c.toNat - 'a'.toNat + 10)
  else if 'A' ≤ c ∧ c ≤ 'F' then some (c.toNat - 'A'.toNat + 10)
  else none

end ParserRefresh.Toml
