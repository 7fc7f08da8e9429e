import ParserRefresh.Path
import ParserRefresh.Settings.KeyPath
import ParserRefresh.Text.Quoted

/-! # Faults of a configuration

What can be wrong with the layers of a configuration or with the settings that they make. -/

namespace ParserRefresh

inductive SettingsFault where
  /-- A key of an override is no path. -/
  | badKey (fault : KeyFault)
  /-- The program crashed at a position that no list has. -/
  | crashed
  /-- A file that has to be there is not. -/
  | fileNotFound (name : Path)
  /-- A file that has to be there holds no text. -/
  | notUtf8
  /-- A file is no well-formed document. -/
  | malformed
  /-- A setting has the wrong type for its key. -/
  | wrongType (found expected key : Text) (origin : Option Text)
  /-- A setting is no table or list where one is expected. -/
  | wrongShape (found expected : Text)
  /-- A list that stands for a table is too short. -/
  | tooShort (length : Nat) (expected : Text)
  /-- A table lacks a key. -/
  | missingField (key : Text)
  deriving DecidableEq

def SettingsFault.message? : SettingsFault → Option Text
  | .badKey fault => some fault.message
  | .crashed => none
  | .fileNotFound name =>
    some ("configuration file \"".toList ++ name.text ++ "\" not found".toList)
  | .notUtf8 => some "stream did not contain valid UTF-8".toList
  | .malformed => some "TOML parse error".toList
  | .wrongType found expected key origin =>
    let source := match origin with
      | some origin => " in ".toList ++ origin
      | none => []
    some ("invalid type: ".toList ++ found ++ ", expected ".toList ++ expected ++
      " for key \x60".toList ++ key ++ "\x60".toList ++ source)
  | .wrongShape found expected =>
    some ("invalid type: ".toList ++ found ++ ", expected ".toList ++ expected)
  | .tooShort length expected =>
    some ("invalid length ".toList ++ (toString length).toList ++ ", expected ".toList ++ expected)
  | .missingField key => some ("missing field \x60".toList ++ key ++ "\x60".toList)

/-- How a setting is named where it is not expected. -/
def Setting.described : Setting → Text
  | .scalar _ .nothing => "unit value".toList
  | .scalar _ (.boolean flag) => "boolean \x60".toList ++ (toString flag).toList ++ "\x60".toList
  | .scalar _ (.integer number) =>
    "integer \x60".toList ++ (toString number).toList ++ "\x60".toList
  | .scalar _ (.real number) => "floating point \x60".toList ++ number.toPointedText ++ "\x60".toList
  | .scalar _ (.text chars) => "string ".toList ++ Text.quoted chars
  | .list .. => "sequence".toList
  | .table .. => "map".toList

end ParserRefresh
