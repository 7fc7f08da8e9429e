import ParserRefresh.Proofs.Outcomes
import ParserRefresh.Proofs.SettingsLaws
import ParserRefresh.Settings.Sources

/-! # Reading a configuration leaf by leaf

Settings that have all leaves make a configuration just if each leaf can be read, and then each value
is what its leaf is read as. How a setting is read does not depend on the path that faults name. -/

namespace ParserRefresh

namespace Setting

variable {setting value : Setting} {first second third key : Text}

theorem at?_pair :
    setting.at? [first, second] = some value ↔
      ∃ table, setting.find? first = some table ∧ table.find? second = some value := by
  simp [at?, Option.bind_eq_some_iff]

theorem at?_triple :
    setting.at? [first, second, third] = some value ↔
      ∃ table, setting.find? first = some table ∧
        ∃ inner, table.find? second = some inner ∧ inner.find? third = some value := by
  simp [at?, Option.bind_eq_some_iff]

/-- What a setting is read as under a path, and so under any. -/
def readAs {α : Type} (read : SettingReader α) (setting : Setting) : Option α :=
  (read [] setting).toOption

/-- What is read does not depend on the path. -/
def Pathless {α : Type} (read : SettingReader α) : Prop :=
  ∀ key setting content, read key setting = .ok content ↔ readAs read setting = some content

theorem toOption_eq_some_iff {ε α : Type} {outcome : Except ε α} {content : α} :
    outcome.toOption = some content ↔ outcome = .ok content := by
  cases outcome <;> simp [Except.toOption]

theorem pathless_readText : Pathless readText := by
  intro key setting content
  rw [readAs, toOption_eq_some_iff]
  cases setting with
  | scalar origin value => cases value <;> simp [readText, refuse]
  | list | table => simp [readText, refuse]

theorem pathless_readFlag : Pathless readFlag := by
  intro key setting content
  rw [readAs, toOption_eq_some_iff]
  cases setting with
  | scalar origin value =>
    cases value with
    | text => simp only [readFlag]; split_ifs <;> simp [refuse]
    | nothing | boolean | integer | real => simp [readFlag, refuse]
  | list | table => simp [readFlag, refuse]

theorem readItems_eq_ok_iff {α : Type} {read : SettingReader α} (pathless : Pathless read)
    {index : Nat} {items : List Setting} {contents : List α} :
    readItems read key index items = .ok contents ↔ items.mapM (readAs read) = some contents := by
  induction items generalizing index contents with
  | nil => simp [readItems]
  | cons item rest ih =>
    simp only [readItems, bind_eq_ok_iff, pathless _ _ _, ih, List.mapM_cons,
      Option.bind_eq_bind, Option.bind_eq_some_iff]
    simp [pure, Except.pure]

theorem pathless_readList {α : Type} {read : SettingReader α} (pathless : Pathless read) :
    Pathless (readList read) := by
  intro key setting content
  rw [readAs, toOption_eq_some_iff]
  cases setting with
  | list origin items => rw [readList, readList, readItems_eq_ok_iff pathless,
      readItems_eq_ok_iff pathless]
  | scalar | table => simp [readList]

end Setting

namespace Record

variable {α β : Type} {name key : Text} {size index : Nat} {setting value : Setting}

/-- What has a key is a table, and so a record. -/
theorem ofSetting_bind_eq_ok_iff {field : Text} {next : Record → Except SettingsFault β} {result : β}
    (found : setting.find? field = some value) :
    ofSetting name size key setting >>= next = .ok result ↔
      next ⟨name, size, key, setting⟩ = .ok result := by
  cases setting with
  | scalar => cases found
  | list => rfl
  | table => rfl

/-- To read a field that is there is to read what stands under its key. -/
theorem field?_bind_eq_ok_iff {field : String} {read : SettingReader α}
    {next : Option α → Except SettingsFault β} {result : β}
    (found : setting.find? field.toList = some value) :
    field? ⟨name, size, key, setting⟩ index field read >>= next = .ok result ↔
      ∃ inner, read (fieldKey ⟨name, size, key, setting⟩ field.toList) value = .ok inner ∧
        next (some inner) = .ok result := by
  have there : field? ⟨name, size, key, setting⟩ index field read =
      (read (fieldKey ⟨name, size, key, setting⟩ field.toList) value).map some := by
    cases setting with
    | scalar => cases found
    | list => cases found
    | table =>
      simp only [field?, found]
  rw [there, bind_eq_ok_iff]
  simp only [map_eq_ok_iff]
  constructor
  · rintro ⟨_, ⟨inner, read, rfl⟩, done⟩
    exact ⟨inner, read, done⟩
  · rintro ⟨inner, read, done⟩
    exact ⟨_, ⟨inner, read, rfl⟩, done⟩

@[simp]
theorem require_some {record : Record} {field : String} (inner : α) :
    record.require index field (some inner) = .ok inner := rfl

end Record

namespace Configuration

def readers : Readers where
  text := Setting.readAs Setting.readText
  flag := Setting.readAs Setting.readFlag
  texts := Setting.readAs (Setting.readList Setting.readText)

theorem readText_eq_ok_iff {key chars : Text} {setting : Setting} :
    Setting.readText key setting = .ok chars ↔ readers.text setting = some chars :=
  Setting.pathless_readText key setting chars

theorem readPath_eq_ok_iff {key : Text} {path : Path} {setting : Setting} :
    Setting.readPath key setting = .ok path ↔ readers.text setting = some path.text := by
  rw [Setting.readPath, map_eq_ok_iff, ← @readText_eq_ok_iff key]
  exact ⟨fun ⟨_, read, same⟩ => same ▸ read, fun read => ⟨_, read, rfl⟩⟩

theorem readFlag_eq_ok_iff {key : Text} {flag : Bool} {setting : Setting} :
    Setting.readFlag key setting = .ok flag ↔ readers.flag setting = some flag :=
  Setting.pathless_readFlag key setting flag

theorem readTexts_eq_ok_iff {key : Text} {texts : List Text} {setting : Setting} :
    Setting.readList Setting.readText key setting = .ok texts ↔
      readers.texts setting = some texts :=
  Setting.pathless_readList Setting.pathless_readText key setting texts

theorem plain_readers : readers.Plain where
  text _ _ := rfl
  flag _ _ := rfl
  texts _ _ _ read := (@readTexts_eq_ok_iff [] _ _).mp
    ((Setting.readItems_eq_ok_iff Setting.pathless_readText).mpr read)

/-! ## Reading the tables -/

section

variable {key : Text} {setting : Setting}

theorem readPaths_eq_ok_iff {own above built rules : Path}
    {source prelude compiled grammar : Setting}
    (foundSource : setting.find? "source".toList = some source)
    (foundPrelude : setting.find? "prelude".toList = some prelude)
    (foundCompiled : setting.find? "compiled".toList = some compiled)
    (foundGrammar : setting.find? "grammar".toList = some grammar) :
    readPaths key setting = .ok (own, above, built, rules) ↔
      readers.text source = some own.text ∧ readers.text prelude = some above.text ∧
      readers.text compiled = some built.text ∧ readers.text grammar = some rules.text := by
  simp only [readPaths, Record.ofSetting_bind_eq_ok_iff foundSource,
    Record.field?_bind_eq_ok_iff foundSource, Record.field?_bind_eq_ok_iff foundPrelude,
    Record.field?_bind_eq_ok_iff foundCompiled, Record.field?_bind_eq_ok_iff foundGrammar,
    Record.require_some, readPath_eq_ok_iff]
  constructor
  · rintro ⟨_, readSource, _, readPrelude, _, readCompiled, _, readGrammar, ⟨⟩⟩
    exact ⟨readSource, readPrelude, readCompiled, readGrammar⟩
  · rintro ⟨readSource, readPrelude, readCompiled, readGrammar⟩
    exact ⟨_, readSource, _, readPrelude, _, readCompiled, _, readGrammar, rfl⟩

theorem readMarkers_eq_ok_iff {markers : Markers} {start stop sentinel : Setting}
    (foundStart : setting.find? "rules_start".toList = some start)
    (foundStop : setting.find? "rules_end".toList = some stop)
    (foundSentinel : setting.find? "test_sentinel".toList = some sentinel) :
    readMarkers key setting = .ok markers ↔
      readers.text start = some markers.rulesStart ∧ readers.text stop = some markers.rulesEnd ∧
      readers.text sentinel = some markers.testSentinel := by
  simp only [readMarkers, Record.ofSetting_bind_eq_ok_iff foundStart,
    Record.field?_bind_eq_ok_iff foundStart, Record.field?_bind_eq_ok_iff foundStop,
    Record.field?_bind_eq_ok_iff foundSentinel, Record.require_some, readText_eq_ok_iff]
  constructor
  · rintro ⟨_, readStart, _, readStop, _, readSentinel, ⟨⟩⟩
    exact ⟨readStart, readStop, readSentinel⟩
  · rintro ⟨readStart, readStop, readSentinel⟩
    exact ⟨_, readStart, _, readStop, _, readSentinel, rfl⟩

theorem readSingle_eq_ok_iff {α : Type} {name field : String} {read : SettingReader α}
    (pathless : Setting.Pathless read) {value : Setting} {content : α}
    (found : setting.find? field.toList = some value) :
    readSingle name field read key setting = .ok content ↔
      Setting.readAs read value = some content := by
  simp only [readSingle, Record.ofSetting_bind_eq_ok_iff found,
    Record.field?_bind_eq_ok_iff found, Record.require_some, pathless _ _ _,
    Except.ok.injEq, exists_eq_right]

theorem readAttributes_eq_ok_iff {strips : Bool} {given : List Text} {strip names : Setting}
    (foundStrip : setting.find? "strip".toList = some strip)
    (foundNames : setting.find? "names".toList = some names) :
    readAttributes key setting = .ok (strips, given) ↔
      readers.flag strip = some strips ∧ readers.texts names = some given := by
  simp only [readAttributes, Record.ofSetting_bind_eq_ok_iff foundStrip,
    Record.field?_bind_eq_ok_iff foundStrip, Record.field?_bind_eq_ok_iff foundNames,
    Record.require_some, readFlag_eq_ok_iff, readTexts_eq_ok_iff]
  constructor
  · rintro ⟨_, readStrip, _, readNames, ⟨⟩⟩
    exact ⟨readStrip, readNames⟩
  · rintro ⟨readStrip, readNames⟩
    exact ⟨_, readStrip, _, readNames, rfl⟩

theorem readExtract_eq_ok_iff {options : ExtractOptions} {sentinel dedent : Setting}
    (foundSentinel : setting.find? "sentinel".toList = some sentinel)
    (foundDedent : setting.find? "dedent".toList = some dedent) :
    readExtract key setting = .ok options ↔
      readers.text sentinel = some options.sentinel ∧
      readers.flag dedent = some options.dedent := by
  simp only [readExtract, Record.ofSetting_bind_eq_ok_iff foundSentinel,
    Record.field?_bind_eq_ok_iff foundSentinel, Record.field?_bind_eq_ok_iff foundDedent,
    Record.require_some, readText_eq_ok_iff, readFlag_eq_ok_iff]
  constructor
  · rintro ⟨_, readSentinel, _, readDedent, ⟨⟩⟩
    exact ⟨readSentinel, readDedent⟩
  · rintro ⟨readSentinel, readDedent⟩
    exact ⟨_, readSentinel, _, readDedent, rfl⟩

theorem readCommand_eq_ok_iff {command : Command} {program arguments : Setting}
    (foundProgram : setting.find? "program".toList = some program)
    (foundArguments : setting.find? "args".toList = some arguments) :
    readCommand key setting = .ok command ↔
      readers.text program = some command.program ∧
      readers.texts arguments = some command.args := by
  simp only [readCommand, Record.ofSetting_bind_eq_ok_iff foundProgram,
    Record.field?_bind_eq_ok_iff foundProgram, Record.field?_bind_eq_ok_iff foundArguments,
    Record.require_some, readText_eq_ok_iff, readTexts_eq_ok_iff]
  constructor
  · rintro ⟨_, readProgram, _, readArguments, ⟨⟩⟩
    exact ⟨readProgram, readArguments⟩
  · rintro ⟨readProgram, readArguments⟩
    exact ⟨_, readProgram, _, readArguments, rfl⟩

theorem readCommands_eq_ok_iff {text : Text} {builds compiles : Command}
    {flag build compiler program arguments otherProgram otherArguments : Setting}
    (foundFlag : setting.find? "grammar_flag".toList = some flag)
    (foundBuild : setting.find? "build".toList = some build)
    (foundCompiler : setting.find? "compiler".toList = some compiler)
    (foundProgram : build.find? "program".toList = some program)
    (foundArguments : build.find? "args".toList = some arguments)
    (foundOther : compiler.find? "program".toList = some otherProgram)
    (foundOthers : compiler.find? "args".toList = some otherArguments) :
    readCommands key setting = .ok (text, builds, compiles) ↔
      readers.text flag = some text ∧
      (readers.text program = some builds.program ∧ readers.texts arguments = some builds.args) ∧
      readers.text otherProgram = some compiles.program ∧
      readers.texts otherArguments = some compiles.args := by
  simp only [readCommands, Record.ofSetting_bind_eq_ok_iff foundFlag,
    Record.field?_bind_eq_ok_iff foundFlag, Record.field?_bind_eq_ok_iff foundBuild,
    Record.field?_bind_eq_ok_iff foundCompiler, Record.require_some, readText_eq_ok_iff,
    readCommand_eq_ok_iff foundProgram foundArguments,
    readCommand_eq_ok_iff foundOther foundOthers]
  constructor
  · rintro ⟨_, readFlag, _, readBuild, _, readCompiler, ⟨⟩⟩
    exact ⟨readFlag, readBuild, readCompiler⟩
  · rintro ⟨readFlag, readBuild, readCompiler⟩
    exact ⟨_, readFlag, _, readBuild, _, readCompiler, rfl⟩

theorem fieldKey_nil {name key : Text} {size : Nat} :
    Record.fieldKey ⟨name, size, [], setting⟩ key = key := rfl

/-- Settings with all tables make a configuration just if each of the tables is read as a part of
it. -/
theorem ofSetting_eq_ok_iff_tables {configuration : Configuration}
    {paths markers comments attributes inlined shown extract commands : Setting}
    (foundPaths : setting.find? "paths".toList = some paths)
    (foundMarkers : setting.find? "markers".toList = some markers)
    (foundComments : setting.find? "comments".toList = some comments)
    (foundAttributes : setting.find? "crate_attributes".toList = some attributes)
    (foundInlined : setting.find? "inline".toList = some inlined)
    (foundShown : setting.find? "prelude".toList = some shown)
    (foundExtract : setting.find? "extract".toList = some extract)
    (foundCommands : setting.find? "commands".toList = some commands) :
    ofSetting setting = .ok configuration ↔
      readPaths "paths".toList paths = .ok (configuration.source, configuration.prelude,
        configuration.compiled, configuration.grammar) ∧
      readMarkers "markers".toList markers = .ok configuration.markers ∧
      readSingle "CommentsConfig" "excluded_prefixes" (Setting.readList Setting.readText)
        "comments".toList comments = .ok configuration.keptComments ∧
      readAttributes "crate_attributes".toList attributes =
        .ok (configuration.stripAttributes, configuration.attributeNames) ∧
      readSingle "InlineConfig" "indent_unit" Setting.readText "inline".toList inlined =
        .ok configuration.indentUnit ∧
      readSingle "PreludeConfig" "header" Setting.readText "prelude".toList shown =
        .ok configuration.header ∧
      readExtract "extract".toList extract = .ok configuration.extract ∧
      readCommands "commands".toList commands =
        .ok (configuration.grammarFlag, configuration.build, configuration.compiler) := by
  simp only [ofSetting, Record.field?_bind_eq_ok_iff foundPaths,
    Record.field?_bind_eq_ok_iff foundMarkers, Record.field?_bind_eq_ok_iff foundComments,
    Record.field?_bind_eq_ok_iff foundAttributes, Record.field?_bind_eq_ok_iff foundInlined,
    Record.field?_bind_eq_ok_iff foundShown, Record.field?_bind_eq_ok_iff foundExtract,
    Record.field?_bind_eq_ok_iff foundCommands, Record.require_some, fieldKey_nil]
  constructor
  · rintro ⟨⟨_, _, _, _⟩, readPaths, _, readMarkers, _, readComments, ⟨_, _⟩, readAttributes, _,
      readInlined, _, readShown, _, readExtract, ⟨_, _, _⟩, readCommands, ⟨⟩⟩
    exact ⟨readPaths, readMarkers, readComments, readAttributes, readInlined, readShown, readExtract,
      readCommands⟩
  · rintro ⟨readPaths, readMarkers, readComments, readAttributes, readInlined, readShown,
      readExtract, readCommands⟩
    exact ⟨_, readPaths, _, readMarkers, _, readComments, _, readAttributes, _, readInlined, _,
      readShown, _, readExtract, _, readCommands, rfl⟩

end

/-- Settings with all leaves make a configuration just if all of its values are what the leaves are
read as. -/
theorem ofSetting_eq_ok_iff {setting : Setting} {configuration : Configuration}
    (there : ∀ leaf ∈ leaves, ∃ value, setting.at? leaf.keys = some value) :
    ofSetting setting = .ok configuration ↔
      ∀ leaf ∈ leaves, ∃ value, setting.at? leaf.keys = some value ∧
        leaf.Reads readers value configuration := by
  simp only [leaves, List.forall_mem_cons, Leaf.keys, List.map_cons, List.map_nil,
    Setting.at?_pair, Setting.at?_triple, Leaf.Reads] at there ⊢
  -- The first leaf of each table gives the table, which the other leaves then lie in.
  obtain ⟨⟨source, paths, foundPaths, foundSource⟩, there⟩ := there
  simp only [foundPaths, Option.some.injEq, exists_eq_left'] at there ⊢
  obtain ⟨⟨prelude, foundPrelude⟩, ⟨compiled, foundCompiled⟩, ⟨grammar, foundGrammar⟩,
    ⟨start, markers, foundMarkers, foundStart⟩, there⟩ := there
  simp only [foundMarkers, Option.some.injEq, exists_eq_left'] at there ⊢
  obtain ⟨⟨stop, foundStop⟩, ⟨sentinel, foundSentinel⟩,
    ⟨kept, comments, foundComments, foundKept⟩,
    ⟨strip, attributes, foundAttributes, foundStrip⟩, there⟩ := there
  simp only [foundComments, foundAttributes, Option.some.injEq, exists_eq_left'] at there ⊢
  obtain ⟨⟨names, foundNames⟩, ⟨unit, inlined, foundInlined, foundUnit⟩,
    ⟨header, shown, foundShown, foundHeader⟩,
    ⟨extracted, extract, foundExtract, foundExtracted⟩, there⟩ := there
  simp only [foundInlined, foundShown, foundExtract, Option.some.injEq, exists_eq_left'] at there ⊢
  obtain ⟨⟨dedent, foundDedent⟩, ⟨flag, commands, foundCommands, foundFlag⟩, there⟩ := there
  simp only [foundCommands, Option.some.injEq, exists_eq_left'] at there ⊢
  obtain ⟨⟨program, build, foundBuild, foundProgram⟩, there⟩ := there
  simp only [foundBuild, Option.some.injEq, exists_eq_left'] at there ⊢
  obtain ⟨⟨arguments, foundArguments⟩, ⟨compiler, compilers, foundCompiler, foundOther⟩, there⟩ :=
    there
  simp only [foundCompiler, Option.some.injEq, exists_eq_left'] at there ⊢
  obtain ⟨⟨others, foundOthers⟩, -⟩ := there
  rw [ofSetting_eq_ok_iff_tables foundPaths foundMarkers foundComments foundAttributes foundInlined
      foundShown foundExtract foundCommands,
    readPaths_eq_ok_iff foundSource foundPrelude foundCompiled foundGrammar,
    readMarkers_eq_ok_iff foundStart foundStop foundSentinel,
    readSingle_eq_ok_iff (Setting.pathless_readList Setting.pathless_readText) foundKept,
    readAttributes_eq_ok_iff foundStrip foundNames,
    readSingle_eq_ok_iff Setting.pathless_readText foundUnit,
    readSingle_eq_ok_iff Setting.pathless_readText foundHeader,
    readExtract_eq_ok_iff foundExtracted foundDedent,
    readCommands_eq_ok_iff foundFlag foundBuild foundCompiler foundProgram foundArguments foundOther
      foundOthers]
  simp only [foundSource, foundPrelude, foundCompiled, foundGrammar, foundStart, foundStop,
    foundSentinel, foundKept, foundStrip, foundNames, foundUnit, foundHeader, foundExtracted,
    foundDedent, foundFlag, foundProgram, foundArguments, foundOther, foundOthers,
    Option.some.injEq, exists_eq_left', and_assoc, List.not_mem_nil, false_implies,
    implies_true, and_true]
  rfl

end Configuration

end ParserRefresh
