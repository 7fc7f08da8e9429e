import ParserRefresh.Toml.Gap

/-! # TOML strings and keys

A basic string stands between double quotes and has escapes, a literal string stands between
single quotes and has none. Either may run over several lines between tripled quotes, where up to
two quotes may stand anywhere, also right before the end. -/

namespace ParserRefresh.Toml

def charOfCode? (code : Nat) : Option Char :=
  if code.isValidChar then some (Char.ofNat code) else none

def escape : Reader Char
  | 'b' :: rest => some ('\x08', rest)
  | 't' :: rest => some ('\t', rest)
  | 'n' :: rest => some ('\n', rest)
  | 'f' :: rest => some ('\x0c', rest)
  | 'r' :: rest => some ('\r', rest)
  | '"' :: rest => some ('"', rest)
  | '\\' :: rest => some ('\\', rest)
  | 'u' :: rest => do
    let (code, rest) ← Reader.digits 16 hexDigit? 4 0 rest
    return (← charOfCode? code, rest)
  | 'U' :: rest => do
    let (code, rest) ← Reader.digits 16 hexDigit? 8 0 rest
    return (← charOfCode? code, rest)
  | _ => none

def basicChar : Reader Char
  | '"' :: _ => none
  | '\\' :: rest => escape rest
  | text => Reader.char isPlain text

def literalChar : Reader Char := Reader.char (fun c => isPlain c && c != '\'')

def basicString : Reader Text := fun text => do
  let (_, text) ← Reader.exactly ['"'] text
  let (chars, text) := Reader.many basicChar text
  let (_, text) ← Reader.exactly ['"'] text
  return (chars, text)

def literalString : Reader Text := fun text => do
  let (_, text) ← Reader.exactly ['\''] text
  let (chars, text) := Reader.many literalChar text
  let (_, text) ← Reader.exactly ['\''] text
  return (chars, text)

def continuation : Reader Text
  | '\\' :: rest => do
    let (_, rest) ← newline (skipBlanks rest)
    let gap : Reader Unit := fun text => (newline text).or
      ((Reader.char Text.isIndent text).map (fun (_, rest) => ((), rest)))
    return ([], (Reader.many gap rest).2)
  | _ => none

/-- One or two quotes that do not end a string over several lines. -/
def fewQuotes (quote : Char) : Reader Text := fun text =>
  let run := text.takeWhile (· == quote)
  if run.length = 1 ∨ run.length = 2 then some (run, text.drop run.length) else none

def piece (quote : Char) (char : Reader Char) : Reader Text := fun text =>
  (fewQuotes quote text).or
    (((newline text).map (fun (_, rest) => (['\n'], rest))).or
      ((char text).map (fun (c, rest) => ([c], rest))))

/-- The end of a string over several lines: three quotes, with up to two of its own before
them. -/
def closing (quote : Char) : Reader Text := fun text =>
  let run := (text.takeWhile (· == quote)).length
  if run < 3 then none else some (List.replicate (min run 5 - 3) quote, text.drop (min run 5))

def longString (quote : Char) (read : Reader Text) : Reader Text := fun text => do
  let (_, text) ← Reader.exactly [quote, quote, quote] text
  let text := match newline text with
    | some (_, rest) => rest
    | none => text
  let (pieces, text) := Reader.many read text
  let (last, text) ← closing quote text
  return (pieces.flatten ++ last, text)

def string : Reader Text := fun text =>
  match text with
  | '"' :: '"' :: '"' :: _ =>
    longString '"' (fun text => (continuation text).or (piece '"' basicChar text)) text
  | '"' :: _ => basicString text
  | '\'' :: '\'' :: '\'' :: _ => longString '\'' (piece '\'' literalChar) text
  | _ => literalString text

def isKeyChar (c : Char) : Bool := c.isAlphanum || c == '-' || c == '_'

def simpleKey : Reader Text := fun text =>
  match text with
  | '"' :: _ => basicString text
  | '\'' :: _ => literalString text
  | _ =>
    let key := text.takeWhile isKeyChar
    if key.isEmpty then none else some (key, text.drop key.length)

/-- The most levels that keys and values may go down. -/
def levelLimit : Nat := 80

/-- Keys with dots between them: those before the last, and the last. Blanks around them are
skipped. -/
def dottedKey : Reader (List Text × Text) := fun text => do
  let (first, text) ← simpleKey (skipBlanks text)
  let next : Reader Text := fun text => do
    let (_, text) ← Reader.exactly ['.'] text
    let (key, text) ← simpleKey (skipBlanks text)
    return (key, skipBlanks text)
  let (more, text) := Reader.many next (skipBlanks text)
  if levelLimit ≤ more.length + 1 then none
  else
    match (first :: more).reverse with
    | [] => none
    | last :: earlier => return ((earlier.reverse, last), text)

end ParserRefresh.Toml
