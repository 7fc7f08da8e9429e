import ParserRefresh.Path

/-! # Options of a refresh

Where the files of a project lie, which lines mark its regions, what is kept in the prelude, and
which commands rebuild the generator and compile the grammar. Every field has the value that a
project gets when it says nothing. -/

namespace ParserRefresh

/-- The lines that mark the regions of a development source. -/
structure Markers where
  rulesStart : Text := "// RULES START".toList
  rulesEnd : Text := "// RULES END".toList
  testSentinel : Text := "#[cfg(test)]".toList
  deriving DecidableEq

/-- How a development tree is flattened into the prelude. -/
structure PreludeOptions where
  markers : Markers := {}
  /-- A comment that begins with one of these is kept. -/
  keptComments : List Text := ["///".toList, "//!".toList]
  /-- Crate attributes with one of these names are removed; no names, no removal. -/
  crateAttributes : List Text :=
    ["crate_id".toList, "crate_name".toList, "crate_type".toList]
  /-- What one level of modules adds to the indentation. -/
  indentUnit : Text := "  ".toList
  /-- Text above the packaged prelude. -/
  header : Option Text := none
  deriving DecidableEq

/-- How the generated rules are found in program output. -/
structure ExtractOptions where
  /-- The start of the line that opens the rules, its indentation aside. -/
  sentinel : Text := "rule!( Grammar <-".toList
  /-- Whether the indentation that all rules share is removed. -/
  dedent : Bool := true
  deriving DecidableEq

/-- An external program and the arguments that are always passed to it. -/
structure Command where
  program : Text
  args : List Text := []
  deriving DecidableEq

/-- Where a refresh reads and writes; relative paths are read from the root. -/
structure Layout where
  root : Path := ⟨".".toList⟩
  source : Path := ⟨"src/parser.rs".toList⟩
  prelude : Path := ⟨"src/prelude.rs".toList⟩
  compiled : Path := ⟨"target/bootpeg/compiled_parser.rs".toList⟩
  grammar : Path := ⟨"src/grammar.peg".toList⟩
  deriving DecidableEq

/-- Everything that a refresh has to know about its project. -/
structure Options where
  layout : Layout := {}
  prelude : PreludeOptions := {}
  extract : ExtractOptions := {}
  build : Command := ⟨"make".toList, ["-B".toList]⟩
  compiler : Command := ⟨"./nailgun".toList, []⟩
  /-- The argument before the grammar path on the compiler's command line. -/
  grammarFlag : Text := "-g".toList
  deriving DecidableEq

namespace Layout

/-- A path of the project, read from its root. -/
def resolve (layout : Layout) (path : Path) : Path := layout.root.join path

def sourcePath (layout : Layout) : Path := layout.resolve layout.source

def preludePath (layout : Layout) : Path := layout.resolve layout.prelude

def compiledPath (layout : Layout) : Path := layout.resolve layout.compiled

def grammarPath (layout : Layout) : Path := layout.resolve layout.grammar

end Layout

end ParserRefresh
