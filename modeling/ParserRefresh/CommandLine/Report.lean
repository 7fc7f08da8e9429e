import ParserRefresh.Refresh.Run

/-! # Showing a report

A report is shown as a summary for people or as a JSON object with one member to a line. -/

namespace ParserRefresh

namespace Json

def codeDigits (code : Nat) : Text :=
  ['0', '0', Nat.digitChar (code / 16), Nat.digitChar (code % 16)]

def escapeChar (c : Char) : Text :=
  match c with
  | '"' => ['\\', '"']
  | '\\' => ['\\', '\\']
  | '\x08' => ['\\', 'b']
  | '\x0c' => ['\\', 'f']
  | '\n' => ['\\', 'n']
  | '\r' => ['\\', 'r']
  | '\t' => ['\\', 't']
  | c => if c < ' ' then '\\' :: 'u' :: codeDigits c.toNat else [c]

def ofText (text : Text) : Text := '"' :: text.flatMap escapeChar ++ ['"']

def ofPath : Option Path → Text
  | none => "null".toList
  | some path => ofText path.text

def object (members : List (String × Text)) : Text :=
  let rows := members.map (fun (key, value) => "  ".toList ++ ofText key.toList ++ ": ".toList ++ value)
  "\x7b\n".toList ++ ",\n".toList.intercalate rows ++ "\n\x7d".toList

end Json

namespace Report

def json (report : Report) : Text :=
  Json.object [
    ("prelude", Json.ofPath report.prelude),
    ("compiled", Json.ofPath report.compiled),
    ("source", Json.ofPath (some report.source)),
    ("rule_lines", (toString report.ruleLines).toList),
    ("source_changed", (toString report.sourceChanged).toList)] ++ ['\n']

def summaryLine (label : String) : Option Path → Text
  | none => []
  | some path => label.toList ++ path.text ++ ['\n']

def summary (report : Report) : Text :=
  let status := if report.sourceChanged then "updated" else "unchanged"
  summaryLine "prelude:  " report.prelude ++ summaryLine "compiled: " report.compiled ++
    "rules:    ".toList ++ report.source.text ++ " (".toList ++
    (toString report.ruleLines).toList ++ " lines, ".toList ++ status.toList ++ ")\n".toList

end Report

end ParserRefresh
