import ParserRefresh.Text.Indent

/-! # Module declarations

A declaration is a line that names a module kept in a file of its own: attributes, a visibility,
the word `mod`, a name and a semicolon, with white space between them. Its parts are read from
left to right, and where each of them ends is settled by its first characters. -/

namespace ParserRefresh

/-- A line that declares a module. -/
structure Declaration where
  indent : Text
  /-- The attributes in front, in order. -/
  attributes : List Text
  visibility : Option Text
  name : Text
  /-- The number of the line, from one. -/
  line : Nat
  deriving DecidableEq

namespace Declaration

def attribute? : Text → Option (Text × Text)
  | '#' :: '[' :: text =>
    match text.dropWhile (· != ']') with
    | ']' :: rest => some ('#' :: '[' :: text.takeWhile (· != ']') ++ [']'], rest)
    | _ => none
  | _ => none

theorem attribute?_append {text taken rest : Text} (found : attribute? text = some (taken, rest)) :
    taken ≠ [] ∧ taken ++ rest = text := by
  unfold attribute? at found
  split at found
  · next text =>
    have whole := List.takeWhile_append_dropWhile (p := (· != ']')) (l := text)
    split at found
    · next parts =>
      simp only [Option.some.injEq, Prod.mk.injEq] at found
      obtain ⟨rfl, rfl⟩ := found
      rw [parts] at whole
      exact ⟨by simp, by simpa using whole⟩
    · simp at found
  · simp at found

theorem length_trimStart_le (text : Text) : (Text.trimStart text).length ≤ text.length :=
  (List.dropWhile_sublist _).length_le

/-- The attributes at the start of a text, each with white space after it skipped, and the text
after them. -/
def readAttributes (text : Text) : List Text × Text :=
  match _found : attribute? text with
  | none => ([], text)
  | some (taken, rest) =>
    let (more, last) := readAttributes (Text.trimStart rest)
    (taken :: more, last)
termination_by text.length
decreasing_by
  obtain ⟨some, whole⟩ := attribute?_append _found
  have size := congrArg List.length whole
  have positive := List.length_pos_iff.mpr some
  have trimmed := length_trimStart_le rest
  simp only [List.length_append] at size
  omega

def skipSpaces? (text : Text) : Option Text :=
  match text with
  | [] => none
  | c :: rest => if Text.isSpace c then some (Text.trimStart rest) else none

def restriction (text : Text) : Text × Text :=
  match Text.trimStart text with
  | '(' :: inner =>
    match inner.dropWhile (· != ')') with
    | ')' :: rest =>
      (text.takeWhile Text.isSpace ++ '(' :: inner.takeWhile (· != ')') ++ [')'], rest)
    | _ => ([], text)
  | _ => ([], text)

/-- The visibility at the start of a text and the text after the white space behind it. Without
a visibility the text stays as it is. -/
def visibility? (text : Text) : Option (Option Text × Text) :=
  match Text.after? "pub".toList text with
  | none => some (none, text)
  | some afterPub =>
    let (scope, rest) := restriction afterPub
    (skipSpaces? rest).map (fun rest => (some ("pub".toList ++ scope), rest))

def isNameStart (c : Char) : Bool := c == '_' || c.isAlpha

def isNameChar (c : Char) : Bool := c == '_' || c.isAlphanum

def name? : Text → Option (Text × Text)
  | [] => none
  | c :: text =>
    if isNameStart c then some (c :: text.takeWhile isNameChar, text.dropWhile isNameChar) else none

/-- The name declared by a text that starts with the word `mod` and ends with a semicolon. -/
def declaredName? (text : Text) : Option Text := do
  let afterWord ← Text.after? "mod".toList text
  let (name, afterName) ← name? (← skipSpaces? afterWord)
  let rest ← Text.after? [';'] (Text.trimStart afterName)
  if Text.isBlank rest then some name else none

/-- Reads a line as a declaration. -/
def parse? (line : Text) (number : Nat) : Option Declaration := do
  let (attributes, rest) := readAttributes (line.dropWhile Text.isIndent)
  let (visibility, rest) ← visibility? rest
  let name ← declaredName? rest
  some ⟨Text.leading line, attributes, visibility, name, number⟩

def attributeLines (declaration : Declaration) : List Text :=
  declaration.attributes.map (declaration.indent ++ ·)

/-- The line that opens the module in place of the declaration. -/
def openingLine (declaration : Declaration) : Text :=
  let visibility := match declaration.visibility with
    | some visibility => visibility ++ [' ']
    | none => []
  declaration.indent ++ visibility ++ "mod ".toList ++ declaration.name ++ " \x7b".toList

def closingLine (declaration : Declaration) : Text := declaration.indent ++ ['}']

end Declaration

end ParserRefresh
