import ParserRefresh.Fault
import ParserRefresh.Options
import ParserRefresh.Text.Indent

/-! # Rules in a development source and in program output

A development source keeps its rules between two marker lines. Such spans are left out of the
prelude, and the first of them is where generated rules are written. In the output of the
compiler the rules are the run of lines from the one that opens them to the next blank line. -/

namespace ParserRefresh

/-- Generated rules, one to a line. -/
structure RuleBlock where
  text : Text
  deriving DecidableEq

/-- The number of lines of a block; the empty block has none. -/
def RuleBlock.lineCount (block : RuleBlock) : Nat :=
  if block.text.isEmpty then 0 else (Text.lines block.text).length

namespace Rules

def neverClosed (start : Text) (line : Nat) : Text :=
  ['\''] ++ start ++ "' on line ".toList ++ (toString line).toList ++ " is never closed".toList

/-- The lines outside the marked spans, or the number of the line that opens a span without an
end. The first argument is the number of the line that opened the span being read. -/
def outside (markers : Markers) : Option Nat → Nat → List Text → Except Nat (List Text)
  | none, _, [] => .ok []
  | some opened, _, [] => .error opened
  | none, number, line :: rest =>
    if Text.trim line = markers.rulesStart then outside markers (some number) (number + 1) rest
    else (outside markers none (number + 1) rest).map (line :: ·)
  | some opened, number, line :: rest =>
    if Text.trim line = markers.rulesEnd then outside markers none (number + 1) rest
    else outside markers (some opened) (number + 1) rest

/-- The text without its marked spans, marker lines included. -/
def strip (markers : Markers) (text : Text) : Except Fault Text :=
  match outside markers none 1 (Text.lines text) with
  | .ok kept => .ok (Text.unlines kept)
  | .error opened =>
    .error (Cause.missingMarker markers.rulesEnd (neverClosed markers.rulesStart opened))

/-- The lines before the first that satisfies `p`, that line, and the lines after it. -/
def breakAt (p : Text → Bool) : List Text → Option (List Text × Text × List Text)
  | [] => none
  | line :: rest =>
    if p line then some ([], line, rest)
    else (breakAt p rest).map (fun (before, found, after) => (line :: before, found, after))

/-- The text with the interior of its first marked span replaced by a blank line, the block
indented like the start marker, and a blank line. -/
def replace (markers : Markers) (block : RuleBlock) (original : Text) : Except Fault Text :=
  match breakAt (fun line => Text.trim line == markers.rulesStart) (Text.lines original) with
  | none =>
    .error (Cause.missingMarker markers.rulesStart
      "development source has no rules region".toList)
  | some (before, start, after) =>
    match breakAt (fun line => Text.trim line == markers.rulesEnd) after with
    | none =>
      .error (Cause.missingMarker markers.rulesEnd
        (neverClosed markers.rulesStart (before.length + 1)))
    | some (_, close, rest) =>
      let rows := Text.indentLines (Text.leading start) (Text.lines block.text)
      .ok (Text.unlines (before ++ start :: [] :: rows ++ [] :: close :: rest))

def opens (sentinel line : Text) : Bool := sentinel.isPrefixOf (Text.trimStart line)

/-- The lines of program output that hold the rules: from the first line that opens them to the
next blank line. No lines, no rules. -/
def run (sentinel : Text) (rows : List Text) : List Text :=
  match rows.dropWhile (fun line => !opens sentinel line) with
  | [] => []
  | first :: rest => (first :: rest.takeWhile (fun line => !Text.isBlank line)).map Text.trimEnd

/-- A line without its first `width` characters. The program crashes on a shorter line. -/
def cutIndent (width : Nat) (line : Text) : Except Fault Text :=
  if width ≤ line.length then .ok (line.drop width) else .error .crashed

def extract (options : ExtractOptions) (output : Text) : Except Fault RuleBlock :=
  match run options.sentinel (Text.outputLines output) with
  | [] => .error (Cause.noRules options.sentinel)
  | first :: rest =>
    let rows := first :: rest
    if options.dedent then
      (rows.mapM (cutIndent (Text.commonIndent rows).length)).map
        (fun cut => ⟨Text.unlines cut⟩)
    else .ok ⟨Text.unlines rows⟩

end Rules

end ParserRefresh
