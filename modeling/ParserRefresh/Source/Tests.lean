import ParserRefresh.Options
import ParserRefresh.Text.Indent
import ParserRefresh.Warning

/-! # Test blocks

A test block runs from a sentinel line to the first later line that holds nothing but a closing
brace at the sentinel's indentation. Nothing inside it is looked at, except to count the items
that start at that indentation: more than one of them is worth a warning. -/

namespace ParserRefresh.Tests

/-- A test block whose closing line has not been met. -/
structure Block where
  indent : Text
  openedAt : Nat
  items : Nat
  deriving DecidableEq

def closes (indent line : Text) : Bool := Text.trimEnd line == indent ++ ['}']

/-- Whether an item starts on a line, at `indent` exactly. A closing brace, an attribute and a
comment start none. -/
def startsItem (indent line : Text) : Bool :=
  let code := Text.trimStart line
  !Text.isBlank line && Text.leading line == indent &&
    !(['}'].isPrefixOf code || "#[".toList.isPrefixOf code || "//".toList.isPrefixOf code)

/-- The block after one more line inside it. -/
def Block.pass (block : Block) (line : Text) : Block :=
  { block with items := block.items + if startsItem block.indent line then 1 else 0 }

def Block.warnings (block : Block) (sentinel : Text) : List Warning :=
  if 1 < block.items then [.manyItems sentinel block.openedAt block.items] else []

/-- What a scan has found. -/
structure Scan where
  kept : List Text
  warnings : List Warning
  /-- The block that was open at the end. -/
  unclosed : Option Block
  deriving DecidableEq

/-- Scans lines from inside `state`, the block that is open if there is one. -/
def scan (sentinel : Text) : Option Block → Nat → List Text → Scan
  | state, _, [] => ⟨[], [], state⟩
  | none, number, line :: rest =>
    if Text.trim line = sentinel then
      scan sentinel (some ⟨Text.leading line, number, 0⟩) (number + 1) rest
    else
      let later := scan sentinel none (number + 1) rest
      { later with kept := line :: later.kept }
  | some block, number, line :: rest =>
    if closes block.indent line then
      let later := scan sentinel none (number + 1) rest
      { later with warnings := block.warnings sentinel ++ later.warnings }
    else scan sentinel (some (block.pass line)) (number + 1) rest

def neverClosed (sentinel : Text) (line : Nat) : Text :=
  ['\''] ++ sentinel ++ "' on line ".toList ++ (toString line).toList ++
    " has no closing brace at its indentation".toList

def strip (sentinel text : Text) : Attempt Text :=
  let found := scan sentinel none 1 (Text.lines text)
  match found.unclosed with
  | none => ⟨.ok (Text.unlines found.kept), found.warnings⟩
  | some block =>
    ⟨.error (Cause.missingMarker (block.indent ++ ['}']) (neverClosed sentinel block.openedAt)),
      found.warnings⟩

end ParserRefresh.Tests
