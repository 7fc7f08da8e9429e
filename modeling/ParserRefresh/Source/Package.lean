import ParserRefresh.Warning

/-! # The packaged prelude

The prelude is embedded in the generator as a constant whose value is a raw string literal. The
text goes into the literal as it is; if it holds the terminator of the literal the constant is
broken, which is worth a warning. -/

namespace ParserRefresh.Package

def opening : Text :=
  "pub static PRELUDE : &'static str = r###\"#![allow(dead_code)]\n\n".toList

def closing : Text := "\"###;\n".toList

/-- Ends the literal. -/
def terminator : Text := "\"###".toList

/-- The header on lines of its own, or nothing if it is blank. -/
def headerLines (header : Option Text) : Text :=
  match header with
  | none => []
  | some header => if Text.isBlank header then [] else Text.trimEnd header ++ ['\n']

def wrap (header : Option Text) (text : Text) : Text :=
  headerLines header ++ opening ++ text ++ closing

def warnings (text : Text) : List Warning :=
  if Text.occursIn terminator text then [.rawTerminator] else []

/-- Packages a text and warns if it ends the literal early. -/
def package (header : Option Text) (text : Text) : Attempt Text :=
  ⟨.ok (wrap header text), warnings text⟩

end ParserRefresh.Package
