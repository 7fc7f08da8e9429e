import ParserRefresh.Toml.Scalar

/-! # TOML documents

A document is a sequence of lines: values under keys, headers that name the table for the lines
after them, comments and blank lines. Lists and inline tables may hold each other down to a fixed
level. -/

namespace ParserRefresh.Toml

def items (value : Reader Value) (text : Text) : Option (List Value × Text) :=
  match skipGaps text with
  | ']' :: rest => some ([], rest)
  | start =>
    match value start with
    | none => none
    | some (item, rest) =>
      match skipGaps rest with
      | ']' :: rest => some ([item], rest)
      | ',' :: rest =>
        if rest.length < text.length then
          (items value rest).map (fun (more, last) => (item :: more, last))
        else none
      | _ => none
termination_by text.length

def pair (value : Reader Value) : Reader ((List Text × Text) × Value) := fun text => do
  let (key, text) ← dottedKey text
  let (_, text) ← Reader.exactly ['='] text
  let (value, text) ← value (skipBlanks text)
  return ((key, value), skipBlanks text)

/-- The pairs of an inline table up to its end. Every comma is followed by a pair. -/
def pairs (value : Reader Value) (text : Text) :
    Option (List ((List Text × Text) × Value) × Text) :=
  match pair value text with
  | none => none
  | some (item, rest) =>
    match rest with
    | '}' :: rest => some ([item], rest)
    | ',' :: rest =>
      if rest.length < text.length then
        (pairs value rest).map (fun (more, last) => (item :: more, last))
      else none
    | _ => none
termination_by text.length

def tableOf (pairs : List ((List Text × Text) × Value)) : Option Value :=
  (pairs.foldlM (fun entries ((path, key), value) => addValue path key value entries) []).map
    (fun entries => .table (finishEntries entries))

def value : Nat → Reader Value
  | 0, text => match text with
    | '[' :: _ | '\x7b' :: _ => none
    | text => scalar text
  | levels + 1, text =>
    match text with
    | '[' :: rest => (items (value levels) rest).map (fun (items, rest) => (.list items, rest))
    | '\x7b' :: rest =>
      match skipBlanks rest with
      | '}' :: rest => some (.table [], rest)
      | rest => do
        let (pairs, rest) ← pairs (value levels) rest
        return (← tableOf pairs, rest)
    | text => scalar text

/-- A line of a document that says something. -/
inductive Statement where
  | pair (path : List Text) (key : Text) (value : Value)
  | header (path : List Text) (key : Text)
  | nextHeader (path : List Text) (key : Text)

/-- A statement, or nothing for a line that says nothing. -/
def statement : Reader (Option Statement) := fun text =>
  match text with
  | '[' :: '[' :: rest => do
    let ((path, key), rest) ← dottedKey rest
    let (_, rest) ← Reader.exactly [']', ']'] rest
    let (_, rest) ← endOfLine rest
    return (some (.nextHeader path key), rest)
  | '[' :: rest => do
    let ((path, key), rest) ← dottedKey rest
    let (_, rest) ← Reader.exactly [']'] rest
    let (_, rest) ← endOfLine rest
    return (some (.header path key), rest)
  | text =>
    match endOfLine text with
    | some (_, rest) => some (none, rest)
    | none => do
      let (((path, key), value), rest) ← pair (value (levelLimit - 1)) text
      let (_, rest) ← endOfLine rest
      return (some (.pair path key value), rest)

/-- A document that is being read: its entries and the path of the last header. -/
structure Draft where
  entries : Entries
  header : List Text

/-- The document after one more line, unless the line contradicts the lines before it. -/
def Draft.add (draft : Draft) : Option Statement → Option Draft
  | none => some draft
  | some (.pair path key value) =>
    (addBelow draft.header path key value draft.entries).map (⟨·, draft.header⟩)
  | some (.header path key) => (openTable path key draft.entries).map (⟨·, path ++ [key]⟩)
  | some (.nextHeader path key) => (openNext path key draft.entries).map (⟨·, path ++ [key]⟩)

/-- The entries of a document, if it is well formed. A byte order mark may stand at its start. -/
def parse (text : Text) : Option (List (Text × Value)) := do
  let text := match text with
    | '\uFEFF' :: rest => rest
    | text => text
  let line : Reader (Option Statement) := fun text => statement (skipBlanks text)
  let (statements, rest) := Reader.many line text
  let draft ← statements.foldlM Draft.add ⟨[], []⟩
  if (skipBlanks rest).isEmpty then some (finishEntries draft.entries) else none

end ParserRefresh.Toml
