import ParserRefresh.Options

/-! # The configuration of a project

What a project can configure. The options of a refresh follow from it and from the root of the
project. -/

namespace ParserRefresh

structure Configuration where
  source : Path
  prelude : Path
  compiled : Path
  grammar : Path
  markers : Markers
  keptComments : List Text
  /-- Whether crate attributes are removed. -/
  stripAttributes : Bool
  attributeNames : List Text
  indentUnit : Text
  /-- Text above the prelude; a blank one is none. -/
  header : Text
  extract : ExtractOptions
  grammarFlag : Text
  build : Command
  compiler : Command
  deriving DecidableEq

namespace Configuration

/-- The header without white space at its end, unless nothing is left. -/
def shownHeader (configuration : Configuration) : Option Text :=
  let header := Text.trimEnd configuration.header
  if header.isEmpty then none else some header

/-- The options of a refresh of the project with the given root. -/
def options (configuration : Configuration) (root : Path) : Options where
  layout := ⟨root, configuration.source, configuration.prelude, configuration.compiled,
    configuration.grammar⟩
  prelude :=
    { markers := configuration.markers
      keptComments := configuration.keptComments
      crateAttributes := if configuration.stripAttributes then configuration.attributeNames else []
      indentUnit := configuration.indentUnit
      header := configuration.shownHeader }
  extract := configuration.extract
  build := configuration.build
  compiler := configuration.compiler
  grammarFlag := configuration.grammarFlag

end Configuration

end ParserRefresh
