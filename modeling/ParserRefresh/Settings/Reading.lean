import ParserRefresh.Settings.Configuration
import ParserRefresh.Settings.Record

/-! # Reading a configuration

A configuration is read from settings table by table. -/

namespace ParserRefresh.Configuration

/-- Reads a command; without arguments it has none. -/
def readCommand : SettingReader Command := fun key setting => do
  let record ← Record.ofSetting "CommandConfig".toList 2 key setting
  let program ← record.field? 0 "program" Setting.readText
  let args ← record.field? 1 "args" (Setting.readList Setting.readText)
  return ⟨← record.require 0 "program" program, args.getD []⟩

/-- Reads where the files of a project lie: the source, the prelude, the compiled parser and the
grammar. -/
def readPaths : SettingReader (Path × Path × Path × Path) := fun key setting => do
  let record ← Record.ofSetting "PathsConfig".toList 4 key setting
  let source ← record.field? 0 "source" Setting.readPath
  let prelude ← record.field? 1 "prelude" Setting.readPath
  let compiled ← record.field? 2 "compiled" Setting.readPath
  let grammar ← record.field? 3 "grammar" Setting.readPath
  return (← record.require 0 "source" source, ← record.require 1 "prelude" prelude,
    ← record.require 2 "compiled" compiled, ← record.require 3 "grammar" grammar)

def readMarkers : SettingReader Markers := fun key setting => do
  let record ← Record.ofSetting "MarkersConfig".toList 3 key setting
  let rulesStart ← record.field? 0 "rules_start" Setting.readText
  let rulesEnd ← record.field? 1 "rules_end" Setting.readText
  let testSentinel ← record.field? 2 "test_sentinel" Setting.readText
  return ⟨← record.require 0 "rules_start" rulesStart, ← record.require 1 "rules_end" rulesEnd,
    ← record.require 2 "test_sentinel" testSentinel⟩

def readSingle {α : Type} (name : String) (field : String) (read : SettingReader α) :
    SettingReader α := fun key setting => do
  let record ← Record.ofSetting name.toList 1 key setting
  record.require 0 field (← record.field? 0 field read)

def readAttributes : SettingReader (Bool × List Text) := fun key setting => do
  let record ← Record.ofSetting "CrateAttributesConfig".toList 2 key setting
  let strip ← record.field? 0 "strip" Setting.readFlag
  let names ← record.field? 1 "names" (Setting.readList Setting.readText)
  return (← record.require 0 "strip" strip, ← record.require 1 "names" names)

def readExtract : SettingReader ExtractOptions := fun key setting => do
  let record ← Record.ofSetting "ExtractConfig".toList 2 key setting
  let sentinel ← record.field? 0 "sentinel" Setting.readText
  let dedent ← record.field? 1 "dedent" Setting.readFlag
  return ⟨← record.require 0 "sentinel" sentinel, ← record.require 1 "dedent" dedent⟩

def readCommands : SettingReader (Text × Command × Command) := fun key setting => do
  let record ← Record.ofSetting "CommandsConfig".toList 3 key setting
  let flag ← record.field? 0 "grammar_flag" Setting.readText
  let build ← record.field? 1 "build" readCommand
  let compiler ← record.field? 2 "compiler" readCommand
  return (← record.require 0 "grammar_flag" flag, ← record.require 1 "build" build,
    ← record.require 2 "compiler" compiler)

def ofSetting (setting : Setting) : Except SettingsFault Configuration := do
  let record : Record := ⟨"Configuration".toList, 8, [], setting⟩
  let paths ← record.field? 0 "paths" readPaths
  let markers ← record.field? 1 "markers" readMarkers
  let comments ← record.field? 2 "comments"
    (readSingle "CommentsConfig" "excluded_prefixes" (Setting.readList Setting.readText))
  let attributes ← record.field? 3 "crate_attributes" readAttributes
  let indentUnit ← record.field? 4 "inline"
    (readSingle "InlineConfig" "indent_unit" Setting.readText)
  let header ← record.field? 5 "prelude" (readSingle "PreludeConfig" "header" Setting.readText)
  let extract ← record.field? 6 "extract" readExtract
  let commands ← record.field? 7 "commands" readCommands
  let (source, prelude, compiled, grammar) ← record.require 0 "paths" paths
  let markers ← record.require 1 "markers" markers
  let keptComments ← record.require 2 "comments" comments
  let (stripAttributes, attributeNames) ← record.require 3 "crate_attributes" attributes
  let indentUnit ← record.require 4 "inline" indentUnit
  let header ← record.require 5 "prelude" header
  let extract ← record.require 6 "extract" extract
  let (grammarFlag, build, compiler) ← record.require 7 "commands" commands
  return ⟨source, prelude, compiled, grammar, markers, keptComments, stripAttributes, attributeNames,
    indentUnit, header, extract, grammarFlag, build, compiler⟩

end ParserRefresh.Configuration
