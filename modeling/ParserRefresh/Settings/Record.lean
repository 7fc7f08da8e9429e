import ParserRefresh.Settings.Fault

/-! # Reading settings

A setting is read as a text, a flag, a list or a record. Numbers and flags can be read as text and
numbers and some words as flags. A record is a table with known keys, or a list that gives its
fields in order. -/

namespace ParserRefresh

/-- Reads a setting whose path is given. -/
abbrev SettingReader (α : Type) := Text → Setting → Except SettingsFault α

namespace Setting

def refuse {α : Type} (expected key : Text) (setting : Setting) : Except SettingsFault α :=
  .error (.wrongType setting.described expected key setting.origin)

def readText : SettingReader Text := fun key setting =>
  match setting with
  | .scalar _ (.text chars) => .ok chars
  | .scalar _ (.boolean flag) => .ok (toString flag).toList
  | .scalar _ (.integer number) => .ok (toString number).toList
  | .scalar _ (.real number) => .ok number.toText
  | setting => setting.refuse "a string".toList key

def yesWords : List Text := ["1".toList, "true".toList, "on".toList, "yes".toList]

def noWords : List Text := ["0".toList, "false".toList, "off".toList, "no".toList]

def readFlag : SettingReader Bool := fun key setting =>
  match setting with
  | .scalar _ (.boolean flag) => .ok flag
  | .scalar _ (.integer number) => .ok (number != 0)
  | .scalar _ (.real number) => .ok !number.isZero
  | .scalar origin (.text chars) =>
    let word := Text.lower chars
    if word ∈ yesWords then .ok true
    else if word ∈ noWords then .ok false
    else (Setting.scalar origin (.text word)).refuse "a boolean".toList key
  | setting => setting.refuse "a boolean".toList key

def readPath : SettingReader Path := fun key setting => (readText key setting).map Path.mk

def itemKey (key : Text) (index : Nat) : Text :=
  key ++ '[' :: (toString index).toList ++ [']']

def readItems {α : Type} (read : SettingReader α) (key : Text) :
    Nat → List Setting → Except SettingsFault (List α)
  | _, [] => .ok []
  | index, item :: rest => do
    let first ← read (itemKey key index) item
    let more ← readItems read key (index + 1) rest
    return first :: more

def readList {α : Type} (read : SettingReader α) : SettingReader (List α) := fun key setting =>
  match setting with
  | .list _ items => readItems read key 0 items
  | setting => .error (.wrongShape setting.described "a sequence".toList)

end Setting

/-- A setting that is read field by field. -/
structure Record where
  /-- What the record is called. -/
  name : Text
  /-- The number of its fields. -/
  size : Nat
  /-- Its path, empty for the whole configuration. -/
  key : Text
  setting : Setting

namespace Record

/-- Takes a table or a list as a record. -/
def ofSetting (name : Text) (size : Nat) (key : Text) (setting : Setting) :
    Except SettingsFault Record :=
  match setting with
  | .scalar .. => .error (.wrongShape setting.described ("struct ".toList ++ name))
  | setting => .ok ⟨name, size, key, setting⟩

def fieldKey (record : Record) (key : Text) : Text :=
  if record.key.isEmpty then key else record.key ++ '.' :: key

/-- Reads a field by its key, or by its number in a list, if it is there. -/
def field? {α : Type} (record : Record) (index : Nat) (key : String) (read : SettingReader α) :
    Except SettingsFault (Option α) :=
  match record.setting with
  | .list _ items =>
    match items[index]? with
    | none => .ok none
    | some item => (read (Setting.itemKey record.key index) item).map some
  | setting =>
    match setting.find? key.toList with
    | none => .ok none
    | some value => (read (record.fieldKey key.toList) value).map some

def require {α : Type} (record : Record) (index : Nat) (key : String) (found : Option α) :
    Except SettingsFault α :=
  match found with
  | some value => .ok value
  | none =>
    match record.setting with
    | .list .. =>
      let count := (toString record.size).toList ++
        if record.size = 1 then " element".toList else " elements".toList
      .error (.tooShort index ("struct ".toList ++ record.name ++ " with ".toList ++ count))
    | _ => .error (.missingField key.toList)

end Record

end ParserRefresh
