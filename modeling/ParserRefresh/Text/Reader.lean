import ParserRefresh.Text.Basic

/-! # Readers

A reader takes something from the start of a text and returns it with the rest, or declines. A
repeated reader has to take at least one character each time, so the repetition ends. -/

namespace ParserRefresh

/-- Takes something from the start of a text. -/
abbrev Reader (α : Type) := Text → Option (α × Text)

namespace Reader

def many {α : Type} (read : Reader α) (text : Text) : List α × Text :=
  match read text with
  | none => ([], text)
  | some (item, rest) =>
    if rest.length < text.length then
      let (items, last) := many read rest
      (item :: items, last)
    else ([], text)
termination_by text.length

def char (p : Char → Bool) : Reader Char
  | c :: rest => if p c then some (c, rest) else none
  | [] => none

def exactly (start : Text) : Reader Unit := fun text =>
  (Text.after? start text).map (fun rest => ((), rest))

def digits (base : Nat) (value? : Char → Option Nat) : Nat → Nat → Reader Nat
  | 0, value, text => some (value, text)
  | count + 1, value, c :: text =>
    match value? c with
    | some digit => digits base value? count (value * base + digit) text
    | none => none
  | _ + 1, _, [] => none

end Reader

end ParserRefresh
