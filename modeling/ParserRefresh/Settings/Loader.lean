import ParserRefresh.Files.Basic
import ParserRefresh.Settings.Configuration
import ParserRefresh.Settings.Fault
import ParserRefresh.Text.Lines

/-! # Loading a configuration

A library of settings is asked for sources and for single settings, and builds a configuration from
them. Every configuration starts with the document of defaults. -/

namespace ParserRefresh

/-- Where settings come from: a document, or a file that may have to be there. -/
inductive SettingsSource where
  | document (text : Text)
  | file (required : Bool) (path : Path)
  deriving DecidableEq

/-- A library that builds settings from sources and single settings, and configurations from
settings. -/
structure SettingsLibrary where
  Builder : Type
  builder : Builder
  addSource : SettingsSource → Builder → Builder
  setOverride : Text → Setting → Builder → Except SettingsFault Builder
  build : FileSystem → Builder → Except SettingsFault Setting
  deserialize : Setting → Except SettingsFault Configuration

/-- A library of settings and what it has been asked for. -/
structure Loader (library : SettingsLibrary) where
  builder : library.Builder

namespace Loader

variable {library : SettingsLibrary}

/-- The settings that a project gets when it says nothing. -/
def defaultDocument : Text :=
  Text.unlines (List.map String.toList [
    "# Default configuration for the bootpeg tools.",
    "#",
    "# Every key here is required by the loader; project files (bootpeg.toml in",
    "# the project root, or a file passed with --config) only need the keys they",
    "# change. Paths are relative to the project root.",
    "",
    "[paths]",
    "source = \"src/parser.rs\"",
    "prelude = \"src/prelude.rs\"",
    "compiled = \"target/bootpeg/compiled_parser.rs\"",
    "grammar = \"src/grammar.peg\"",
    "",
    "[markers]",
    "rules_start = \"// RULES START\"",
    "rules_end = \"// RULES END\"",
    "test_sentinel = \"#[cfg(test)]\"",
    "",
    "[comments]",
    "# Comments starting with these prefixes are kept in the prelude.",
    "excluded_prefixes = [\"///\", \"//!\"]",
    "",
    "[crate_attributes]",
    "strip = true",
    "names = [\"crate_id\", \"crate_name\", \"crate_type\"]",
    "",
    "[inline]",
    "indent_unit = \"  \"",
    "",
    "[prelude]",
    "# Text written above the PRELUDE constant; empty means none.",
    "header = \"\"",
    "",
    "[extract]",
    "sentinel = \"rule!( Grammar <-\"",
    "dedent = true",
    "",
    "[commands]",
    "grammar_flag = \"-g\"",
    "",
    "[commands.build]",
    "program = \"make\"",
    "args = [\"-B\"]",
    "",
    "[commands.compiler]",
    "program = \"./nailgun\"",
    "args = []",
    ""])

def projectFile : Path := ⟨"bootpeg.toml".toList⟩

def new : Loader library := ⟨library.addSource (.document defaultDocument) library.builder⟩

def withSource (loader : Loader library) (source : SettingsSource) : Loader library :=
  ⟨library.addSource source loader.builder⟩

def withFile (loader : Loader library) (path : Path) : Loader library :=
  loader.withSource (.file true path)

def withOptionalFile (loader : Loader library) (path : Path) : Loader library :=
  loader.withSource (.file false path)

def withProject (loader : Loader library) (root : Path) : Loader library :=
  loader.withOptionalFile (root.join projectFile)

def setOverride (loader : Loader library) (key : Text) (value : Setting) :
    Except SettingsFault (Loader library) :=
  (library.setOverride key value loader.builder).map Loader.mk

/-- The configuration that has been asked for. -/
def build (loader : Loader library) (files : FileSystem) : Except SettingsFault Configuration := do
  library.deserialize (← library.build files loader.builder)

end Loader

end ParserRefresh
