import ParserRefresh.Fault
import ParserRefresh.Text.Word

/-! # Crate attributes

A crate attribute is a line that starts with `#![`, perhaps some white space, and a name that
ends at the boundary of a word. Lines with one of the listed names are left out. -/

namespace ParserRefresh

/-- A library that builds searches from patterns. It may refuse a pattern, and then it says why. -/
class PatternLibrary where
  refusal : Text → Option Text

/-- A library that refuses no pattern. -/
abbrev PatternLibrary.lenient : PatternLibrary := ⟨fun _ => none⟩

/-- The crate attributes that are left out, by name. -/
structure CrateAttributes where
  names : List Text
  deriving DecidableEq

namespace CrateAttributes

def isOperator (c : Char) : Bool :=
  ['\\', '.', '+', '*', '?', '(', ')', '|', '[', ']', '\x7b', '\x7d', '^', '$', '#', '&', '-',
    '~'].contains c

/-- A name as a search pattern for itself. -/
def escape (name : Text) : Text :=
  name.flatMap (fun c => if isOperator c then ['\\', c] else [c])

def opening : Text := "^#!\\[\\s*(?:".toList

def pattern (names : List Text) : Text :=
  opening ++ "|".toList.intercalate (names.map escape) ++ ")\\b".toList

/-- The filter for a list of names, unless the library refuses their pattern. -/
def ofNames [PatternLibrary] (names : List Text) : Except Fault CrateAttributes :=
  match PatternLibrary.refusal (pattern names) with
  | none => .ok ⟨names⟩
  | some reason => .error (Cause.rejectedPattern (pattern names) reason)

theorem eq_of_ofNames [PatternLibrary] {names : List Text} {filter : CrateAttributes}
    (built : ofNames names = .ok filter) : filter = ⟨names⟩ := by
  unfold ofNames at built
  split at built
  · exact (Except.ok.inj built).symm
  · cases built

/-- Whether a name stands at the start of the text, some white space skipped, and ends at the
boundary of a word; `before` is the character in front of the text. -/
def namedAt (name : Text) (before : Char) (text : Text) : Bool :=
  let here := match Text.after? name text with
    | some rest => Text.isBoundary (name.getLast?.getD before) rest.head?
    | none => false
  match text with
  | [] => here
  | c :: rest => here || (Text.isSpace c && namedAt name c rest)

def covers (filter : CrateAttributes) (line : Text) : Bool :=
  match Text.after? "#![".toList line with
  | none => false
  | some rest => filter.names.any (fun name => namedAt name '[' rest)

def strip (filter : CrateAttributes) (text : Text) : Text :=
  Text.unlines ((Text.lines text).filter (fun line => !filter.covers line))

end CrateAttributes

end ParserRefresh
