import ParserRefresh.Modules.Inline
import ParserRefresh.Source.Comments
import ParserRefresh.Source.CrateAttributes
import ParserRefresh.Source.Package
import ParserRefresh.Source.Rules
import ParserRefresh.Source.Tests
import ParserRefresh.Source.Tidy

/-! # From a development tree to its prelude

A pass turns a text into a text and may fail or warn. Flattening strips the rules from the root
text, inlines the modules, and strips test blocks, comments and crate attributes; the prelude is
the flattened text, tidied and packaged. Passes that cannot be built fail before any of them
runs. -/

namespace ParserRefresh

/-- One step from text to text. -/
abbrev Pass := Text → Attempt Text

namespace Pass

def same : Pass := Attempt.succeed

def ofFunction (f : Text → Text) : Pass := fun text => Attempt.succeed (f text)

def ofFallible (f : Text → Except Fault Text) : Pass := fun text => Attempt.quiet (f text)

/-- One pass and then another, unless the first one fails. -/
def and (first second : Pass) : Pass := fun text => (first text).andThen second

def stripRules (markers : Markers) : Pass := ofFallible (Rules.strip markers)

def inlineModules (files : FileSystem) (indentUnit : Text) (path : Path) : Pass :=
  ofFallible (Modules.inline files indentUnit path)

def stripTests (sentinel : Text) : Pass := Tests.strip sentinel

def stripComments (kept : List Text) : Pass := ofFunction (Comments.strip kept)

/-- Removes the crate attributes with the given names. Without names nothing is read again. -/
def stripCrateAttributes [PatternLibrary] (names : List Text) : Except Fault Pass :=
  if names.isEmpty then .ok same
  else (CrateAttributes.ofNames names).map (fun filter => ofFunction filter.strip)

def tidy : Pass := ofFunction Tidy.tidy

def package (header : Option Text) : Pass := Package.package header

end Pass

/-- The passes that flatten the development source at `path`. -/
def flatten [PatternLibrary] (files : FileSystem) (path : Path) (options : PreludeOptions) :
    Except Fault Pass :=
  (Pass.stripCrateAttributes options.crateAttributes).map (fun attributes =>
    ((((Pass.stripRules options.markers).and
      (Pass.inlineModules files options.indentUnit path)).and
      (Pass.stripTests options.markers.testSentinel)).and
      (Pass.stripComments options.keptComments)).and attributes)

/-- The passes that make the prelude of the development source at `path`. -/
def prelude [PatternLibrary] (files : FileSystem) (path : Path) (options : PreludeOptions) :
    Except Fault Pass :=
  (flatten files path options).map
    (fun flat => (flat.and Pass.tidy).and (Pass.package options.header))

end ParserRefresh
