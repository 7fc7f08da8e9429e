import ParserRefresh.Proofs.SettingsLaws

/-! # The document of defaults

What the document of defaults says when it is read. -/

namespace ParserRefresh.SettingsLibrary

def tableOf (entries : List (String × Setting)) : Setting :=
  .table none (entries.map fun entry => (entry.1.toList, entry.2))

def textOf (chars : String) : Setting := .ofText chars.toList

theorem defaultEntries_eq : defaultEntries = [
    ("paths".toList, tableOf [("source", textOf "src/parser.rs"),
      ("prelude", textOf "src/prelude.rs"),
      ("compiled", textOf "target/bootpeg/compiled_parser.rs"),
      ("grammar", textOf "src/grammar.peg")]),
    ("markers".toList, tableOf [("rules_start", textOf "// RULES START"),
      ("rules_end", textOf "// RULES END"), ("test_sentinel", textOf "#[cfg(test)]")]),
    ("comments".toList, tableOf [("excluded_prefixes", .ofTexts ["///".toList, "//!".toList])]),
    ("crate_attributes".toList, tableOf [("strip", .scalar none (.boolean true)),
      ("names", .ofTexts ["crate_id".toList, "crate_name".toList, "crate_type".toList])]),
    ("inline".toList, tableOf [("indent_unit", textOf "  ")]),
    ("prelude".toList, tableOf [("header", textOf "")]),
    ("extract".toList, tableOf [("sentinel", textOf "rule!( Grammar <-"),
      ("dedent", .scalar none (.boolean true))]),
    ("commands".toList, tableOf [("grammar_flag", textOf "-g"),
      ("build", tableOf [("program", textOf "make"), ("args", .ofTexts ["-B".toList])]),
      ("compiler", tableOf [("program", textOf "./nailgun"), ("args", .ofTexts [])])])] := by
  decide +kernel

/-- The document of defaults is well-formed. -/
theorem exists_parse_defaultDocument :
    ∃ entries, Toml.parse Loader.defaultDocument = some entries ∧
      defaultEntries = Setting.ofTomlEntries none entries := by
  have read : defaultEntries = Setting.ofTomlEntries none
    ((Toml.parse Loader.defaultDocument).getD []) := rfl
  cases parsed : Toml.parse Loader.defaultDocument with
  | some entries =>
    rw [parsed] at read
    exact ⟨entries, rfl, read⟩
  | none =>
    rw [parsed, defaultEntries_eq] at read
    cases read

end ParserRefresh.SettingsLibrary
