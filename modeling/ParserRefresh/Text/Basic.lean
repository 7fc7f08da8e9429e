/-! # Text as a list of characters

A text is a list of characters, and a line is a text in which no line break is looked for.
White space is the Unicode property of that name; trimming and blankness are stated with it. -/

namespace ParserRefresh

/-- A text, read from left to right. -/
abbrev Text := List Char

namespace Text

/-- The characters with the Unicode property White_Space. -/
def isSpace (c : Char) : Bool :=
  let code := c.toNat
  (9 ≤ code && code ≤ 13) || code == 0x20 || code == 0x85 || code == 0xA0 || code == 0x1680 ||
    (0x2000 ≤ code && code ≤ 0x200A) || code == 0x2028 || code == 0x2029 || code == 0x202F ||
    code == 0x205F || code == 0x3000

def trimStart (text : Text) : Text := text.dropWhile isSpace

def trimEnd (text : Text) : Text := (text.reverse.dropWhile isSpace).reverse

def trim (text : Text) : Text := trimEnd (trimStart text)

/-- A text is blank when it holds white space only. -/
def isBlank (text : Text) : Bool := text.all isSpace

/-- The rest of `text` after `start`, if it begins with `start`. -/
def after? : Text → Text → Option Text
  | [], text => some text
  | _ :: _, [] => none
  | c :: start, d :: text => if c = d then after? start text else none

def isIn (ranges : Array (Nat × Nat)) (c : Char) : Bool :=
  ranges.any (fun range => range.1 ≤ c.toNat && c.toNat ≤ range.2)

def occursIn (part : Text) : Text → Bool
  | [] => part.isEmpty
  | c :: text => part.isPrefixOf (c :: text) || occursIn part text

theorem after?_eq_some_iff {start text rest : Text} :
    after? start text = some rest ↔ text = start ++ rest := by
  induction start generalizing text with
  | nil => simp [after?, eq_comm]
  | cons c start ih =>
    cases text with
    | nil => simp [after?]
    | cons d text =>
      by_cases same : c = d
      · simp [after?, same, ih]
      · have other : ¬ d = c := fun eq => same eq.symm
        simp [after?, same, other]

theorem trimStart_eq_drop (text : Text) :
    text.takeWhile isSpace ++ trimStart text = text := List.takeWhile_append_dropWhile

end Text

end ParserRefresh
