import ParserRefresh.Toml.String
import ParserRefresh.Toml.Value

/-! # TOML numbers, dates and times

A number may have single underscores between its digits. Whole numbers have 64 bits; a real number
may not be too large for its format. A date and a time have fixed widths and have to exist; they
are kept as text in one spelling. -/

namespace ParserRefresh.Toml

def digitRun (value? : Char → Option Nat) : Reader (List Nat) := fun text => do
  let digit : Reader Nat := fun text =>
    match text with
    | c :: rest => (value? c).map (fun value => (value, rest))
    | [] => none
  let next : Reader Nat := fun text =>
    match text with
    | '_' :: rest => digit rest
    | text => digit text
  let (first, text) ← digit text
  let (more, text) := Reader.many next text
  return (first :: more, text)

def ofDigits (base : Nat) (digits : List Nat) : Nat :=
  digits.foldl (fun value digit => value * base + digit) 0

def wholeDigits : Reader (List Nat) := fun text =>
  match text with
  | '0' :: rest => some ([0], rest)
  | text => digitRun decimalDigit? text

def sign : Reader Bool
  | '+' :: rest => some (false, rest)
  | '-' :: rest => some (true, rest)
  | text => some (false, text)

def fit (number : Int) : Option Value :=
  if -Int.pow 2 63 ≤ number ∧ number < Int.pow 2 63 then some (.integer number) else none

def octalDigit? (c : Char) : Option Nat :=
  if '0' ≤ c ∧ c ≤ '7' then some (c.toNat - '0'.toNat) else none

def binaryDigit? (c : Char) : Option Nat :=
  if c = '0' then some 0 else if c = '1' then some 1 else none

def basedInteger (base : Nat) (value? : Char → Option Nat) : Reader Value := fun text => do
  let (digits, text) ← digitRun value? text
  return (← fit (ofDigits base digits), text)

def integer : Reader Value
  | '0' :: 'x' :: text => basedInteger 16 hexDigit? text
  | '0' :: 'o' :: text => basedInteger 8 octalDigit? text
  | '0' :: 'b' :: text => basedInteger 2 binaryDigit? text
  | text => do
    let (negative, text) ← sign text
    let (digits, text) ← wholeDigits text
    let number : Int := ofDigits 10 digits
    return (← fit (if negative then -number else number), text)

def fraction : Reader (List Nat)
  | '.' :: text => digitRun decimalDigit? text
  | text => some ([], text)

def exponent : Reader Int := fun text =>
  match text with
  | 'e' :: text | 'E' :: text => do
    let (negative, text) ← sign text
    let (digits, text) ← digitRun decimalDigit? text
    let number : Int := ofDigits 10 digits
    return (if negative then -number else number, text)
  | text => some (0, text)

def pointed : Reader Value := fun text => do
  let (negative, text) ← sign text
  let (whole, afterWhole) ← wholeDigits text
  let (places, text) ← fraction afterWhole
  let (power, text) ← exponent text
  if text.length = afterWhole.length then none
  else
    match Binary64.ofDecimal negative (ofDigits 10 (whole ++ places)) (power - places.length) with
    | .infinite false => none
    | number => return (.real number, text)

def special : Reader Value := fun text => do
  let (negative, text) ← sign text
  match text with
  | 'i' :: 'n' :: 'f' :: rest => return (.real (.infinite negative), rest)
  | 'n' :: 'a' :: 'n' :: rest => return (.real .nan, rest)
  | _ => none

def field (width least greatest : Nat) : Reader (Nat × Text) := fun text => do
  let (value, rest) ← Reader.digits 10 decimalDigit? width 0 text
  if least ≤ value ∧ value ≤ greatest then return ((value, text.take width), rest) else none

def daysOf (year month : Nat) : Nat :=
  if month = 2 then if year % 4 = 0 ∧ (year % 100 ≠ 0 ∨ year % 400 = 0) then 29 else 28
  else if month = 4 ∨ month = 6 ∨ month = 9 ∨ month = 11 then 30
  else 31

def date : Reader Text := fun text => do
  let ((year, yearText), text) ← field 4 0 9999 text
  let (_, text) ← Reader.exactly ['-'] text
  let ((month, monthText), text) ← field 2 1 12 text
  let (_, text) ← Reader.exactly ['-'] text
  let ((_, dayText), text) ← field 2 1 (daysOf year month) text
  return (yearText ++ '-' :: monthText ++ '-' :: dayText, text)

def secondFraction : Reader Text
  | '.' :: text =>
    let places := text.takeWhile Char.isDigit
    if places.isEmpty then none
    else
      let kept := ((places.take 9).reverse.dropWhile (· == '0')).reverse
      some (if kept.isEmpty then [] else '.' :: kept, text.drop places.length)
  | text => some ([], text)

def time : Reader Text := fun text => do
  let ((_, hour), text) ← field 2 0 23 text
  let (_, text) ← Reader.exactly [':'] text
  let ((_, minute), text) ← field 2 0 59 text
  let (_, text) ← Reader.exactly [':'] text
  let ((_, second), text) ← field 2 0 60 text
  let (part, text) ← secondFraction text
  return (hour ++ ':' :: minute ++ ':' :: second ++ part, text)

/-- The distance of a time from the reference, if it is given. -/
def offset : Reader Text := fun text =>
  match text with
  | 'Z' :: rest | 'z' :: rest => some (['Z'], rest)
  | c :: rest =>
    if c = '+' ∨ c = '-' then do
      let ((hours, hour), rest) ← field 2 0 23 rest
      let (_, rest) ← Reader.exactly [':'] rest
      let ((minutes, minute), rest) ← field 2 0 59 rest
      let shown := if hours = 0 ∧ minutes = 0 then '+' else c
      return (shown :: hour ++ ':' :: minute, rest)
    else some ([], text)
  | [] => some ([], [])

def timeOfDate : Reader Text := fun text => do
  let (_, text) ← Reader.char (fun c => c == 'T' || c == 't' || c == ' ') text
  let (time, text) ← time text
  let (offset, text) ← offset text
  return ('T' :: time ++ offset, text)

def moment : Reader Value := fun text =>
  match date text with
  | some (date, rest) =>
    match timeOfDate rest with
    | some (time, rest) => some (.text (date ++ time), rest)
    | none => some (.text date, rest)
  | none => (time text).map (fun (time, rest) => (.text time, rest))

def scalar : Reader Value := fun text =>
  match text with
  | '"' :: _ | '\'' :: _ => (string text).map (fun (chars, rest) => (.text chars, rest))
  | 't' :: 'r' :: 'u' :: 'e' :: rest => some (.boolean true, rest)
  | 'f' :: 'a' :: 'l' :: 's' :: 'e' :: rest => some (.boolean false, rest)
  | _ => (((moment text).or (pointed text)).or (special text)).or (integer text)

end ParserRefresh.Toml
