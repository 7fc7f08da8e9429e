import ParserRefresh.Proofs.SettingChanges
import ParserRefresh.Settings.Loader
import ParserRefresh.Toml.Document

/-! # Laws of a library of settings

What is assumed of the library that builds a configuration. It merges sources in the order in which
they are added, each of them key by key, with the keys in lower case, and puts the single settings
over all of them; the configuration is then read leaf by leaf. In which order the entries of a table
and the single settings are merged, what is read as a text, and what goes wrong, is left open. -/

namespace ParserRefresh

namespace Configuration

/-- Ways to read settings as texts, flags and lists of texts. -/
structure Readers where
  text : Setting → Option Text
  flag : Setting → Option Bool
  texts : Setting → Option (List Text)

/-- Texts, flags and lists are read as what they are. -/
structure Readers.Plain (readers : Readers) : Prop where
  text (origin : Option Text) (chars : Text) :
    readers.text (.scalar origin (.text chars)) = some chars
  flag (origin : Option Text) (flag : Bool) :
    readers.flag (.scalar origin (.boolean flag)) = some flag
  texts (origin : Option Text) {items : List Setting} {texts : List Text} :
    items.mapM readers.text = some texts → readers.texts (.list origin items) = some texts

/-- A value of a configuration, with the keys that lead to its setting and the way to read it. -/
structure Leaf where
  names : List String
  {Content : Type}
  read : Readers → Setting → Option Content
  content : Configuration → Content

namespace Leaf

def keys (leaf : Leaf) : List Text := leaf.names.map String.toList

/-- The value that a configuration has at a leaf is what a setting is read as. -/
def Reads (leaf : Leaf) (readers : Readers) (setting : Setting) (configuration : Configuration) :
    Prop :=
  leaf.read readers setting = some (leaf.content configuration)

end Leaf

def leaves : List Leaf := [
  ⟨["paths", "source"], Readers.text, (·.source.text)⟩,
  ⟨["paths", "prelude"], Readers.text, (·.prelude.text)⟩,
  ⟨["paths", "compiled"], Readers.text, (·.compiled.text)⟩,
  ⟨["paths", "grammar"], Readers.text, (·.grammar.text)⟩,
  ⟨["markers", "rules_start"], Readers.text, (·.markers.rulesStart)⟩,
  ⟨["markers", "rules_end"], Readers.text, (·.markers.rulesEnd)⟩,
  ⟨["markers", "test_sentinel"], Readers.text, (·.markers.testSentinel)⟩,
  ⟨["comments", "excluded_prefixes"], Readers.texts, (·.keptComments)⟩,
  ⟨["crate_attributes", "strip"], Readers.flag, (·.stripAttributes)⟩,
  ⟨["crate_attributes", "names"], Readers.texts, (·.attributeNames)⟩,
  ⟨["inline", "indent_unit"], Readers.text, (·.indentUnit)⟩,
  ⟨["prelude", "header"], Readers.text, (·.header)⟩,
  ⟨["extract", "sentinel"], Readers.text, (·.extract.sentinel)⟩,
  ⟨["extract", "dedent"], Readers.flag, (·.extract.dedent)⟩,
  ⟨["commands", "grammar_flag"], Readers.text, (·.grammarFlag)⟩,
  ⟨["commands", "build", "program"], Readers.text, (·.build.program)⟩,
  ⟨["commands", "build", "args"], Readers.texts, (·.build.args)⟩,
  ⟨["commands", "compiler", "program"], Readers.text, (·.compiler.program)⟩,
  ⟨["commands", "compiler", "args"], Readers.texts, (·.compiler.args)⟩]

end Configuration

namespace SettingsLibrary

/-- What a library does behind its functions: how it reads keys, sources and values, and how it puts
a value at the end of a path. -/
structure Behaviour where
  path : Text → Option (List KeyStep)
  entries : FileSystem → SettingsSource → Except SettingsFault (List (Text × Setting))
  put : Put
  readers : Configuration.Readers

namespace Behaviour

variable (behaviour : Behaviour)

/-- The change that an entry of a source makes. A key that is no path is a key as a whole. -/
def change (entry : Text × Setting) : Change :=
  ⟨(behaviour.path entry.1).getD [.child entry.1], entry.2⟩

/-- The layers of sources with these entries and of single settings. -/
def layers (contents : List (List (Text × Setting))) (single : List Change) : List (List Change) :=
  contents.map (·.map behaviour.change) ++ [single]

end Behaviour

/-- A builder has been asked for sources and for single settings, in these orders. -/
inductive Asked (library : SettingsLibrary) (behaviour : Behaviour) :
    List SettingsSource → List Change → library.Builder → Prop where
  | start : Asked library behaviour [] [] library.builder
  | source {sources : List SettingsSource} {single : List Change} {builder : library.Builder}
    (asked : Asked library behaviour sources single builder) (source : SettingsSource) :
    Asked library behaviour (sources ++ [source]) single (library.addSource source builder)
  | override {sources : List SettingsSource} {single : List Change}
    {builder after : library.Builder} (asked : Asked library behaviour sources single builder)
    {key : Text} {change : Change} (path : behaviour.path key = some change.steps)
    (done : library.setOverride key change.value builder = .ok after) :
    Asked library behaviour sources (single ++ [change]) after

/-- A name that stands for itself in a path. -/
def IsName (name : Text) : Prop := name ≠ [] ∧ ∀ c ∈ name, KeyPath.isKeyChar c = true

def defaultEntries : List (Text × Setting) :=
  Setting.ofTomlEntries none ((Toml.parse Loader.defaultDocument).getD [])

/-- What is assumed of a library. -/
structure Lawful (library : SettingsLibrary) (behaviour : Behaviour) : Prop where
  put : behaviour.put.KeyByKey
  readers : behaviour.readers.Plain
  /-- Names with dots between them are the path of these names. -/
  path {names : List Text} : names ≠ [] → (∀ name ∈ names, IsName name) →
    behaviour.path (Text.join '.' names) = some (names.map .child)
  defaults (files : FileSystem) :
    behaviour.entries files (.document Loader.defaultDocument) = .ok defaultEntries
  /-- Each single setting with a path is accepted. -/
  override {key : Text} {steps : List KeyStep} (value : Setting) (builder : library.Builder) :
    behaviour.path key = some steps → ∃ after, library.setOverride key value builder = .ok after
  /-- Sources are merged in their order, and single settings with different paths over them. -/
  build {sources : List SettingsSource} {single : List Change} {builder : library.Builder}
    {files : FileSystem} {setting : Setting} : library.Asked behaviour sources single builder →
    single.Pairwise (·.steps ≠ ·.steps) → library.build files builder = .ok setting →
      ∃ contents, sources.mapM (behaviour.entries files) = .ok contents ∧
        Change.MakesLayers behaviour.put (behaviour.layers contents single) .empty setting
  /-- Sources that can be read are merged when all their paths are made of names. -/
  builds {sources : List SettingsSource} {single : List Change} {builder : library.Builder}
    {files : FileSystem} {contents : List (List (Text × Setting))} :
    library.Asked behaviour sources single builder → single.Pairwise (·.steps ≠ ·.steps) →
      sources.mapM (behaviour.entries files) = .ok contents →
      (∀ layer ∈ behaviour.layers contents single, ∀ change ∈ layer,
        ∃ names : List Text, change.steps = names.map .child) →
      ∃ setting, library.build files builder = .ok setting
  /-- Settings with all leaves are read leaf by leaf. -/
  deserialize {setting : Setting} {configuration : Configuration} :
    (∀ leaf ∈ Configuration.leaves, ∃ value, setting.at? leaf.keys = some value) →
      (library.deserialize setting = .ok configuration ↔
        ∀ leaf ∈ Configuration.leaves, ∃ value, setting.at? leaf.keys = some value ∧
          leaf.Reads behaviour.readers value configuration)

end SettingsLibrary

end ParserRefresh
