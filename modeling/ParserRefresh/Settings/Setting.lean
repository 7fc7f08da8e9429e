import ParserRefresh.Text.Lowercase
import ParserRefresh.Toml.Value

/-! # Settings

A setting is a value of a configuration together with the file it comes from, if it comes from
one. Settings are merged key by key: a table is merged into what stands under its key, anything
else takes its place. Keys are written in lower case when they are merged. -/

namespace ParserRefresh

/-- A setting that is neither a list nor a table. -/
inductive Scalar where
  | nothing
  | boolean (flag : Bool)
  | integer (number : Int)
  | real (number : Binary64)
  | text (chars : Text)
  deriving DecidableEq

/-- A value of a configuration and its origin. -/
inductive Setting where
  | scalar (origin : Option Text) (value : Scalar)
  | list (origin : Option Text) (items : List Setting)
  | table (origin : Option Text) (entries : List (Text × Setting))

namespace Setting

def empty : Setting := .table none []

def nothing : Setting := .scalar none .nothing

def ofText (chars : Text) : Setting := .scalar none (.text chars)

def ofTexts (texts : List Text) : Setting := .list none (texts.map ofText)

def origin : Setting → Option Text
  | .scalar origin _ | .list origin _ | .table origin _ => origin

mutual

def ofToml (origin : Option Text) : Toml.Value → Setting
  | .text chars => .scalar origin (.text chars)
  | .integer number => .scalar origin (.integer number)
  | .real number => .scalar origin (.real number)
  | .boolean flag => .scalar origin (.boolean flag)
  | .list items => .list origin (ofTomlItems origin items)
  | .table entries => .table origin (ofTomlEntries origin entries)

def ofTomlItems (origin : Option Text) : List Toml.Value → List Setting
  | [] => []
  | item :: rest => ofToml origin item :: ofTomlItems origin rest

def ofTomlEntries (origin : Option Text) : List (Text × Toml.Value) → List (Text × Setting)
  | [] => []
  | (key, value) :: rest => (key, ofToml origin value) :: ofTomlEntries origin rest

end

def entries : Setting → List (Text × Setting)
  | .table _ entries => entries
  | _ => []

def items : Setting → List Setting
  | .list _ items => items
  | _ => []

def find? (setting : Setting) (key : Text) : Option Setting := setting.entries.lookup key

/-- Puts something under a key that depends on what stands there. -/
def updateEntry (key : Text) (alter : Option Setting → Setting) :
    List (Text × Setting) → List (Text × Setting)
  | [] => [(key, alter none)]
  | (name, old) :: rest =>
    if name = key then (name, alter (some old)) :: rest
    else (name, old) :: updateEntry key alter rest

def withEntries (entries : List (Text × Setting)) : Setting → Setting
  | .table origin _ => .table origin entries
  | _ => .table none entries

/-- Puts something under a key; what is no table is replaced by one. -/
def update (key : Text) (alter : Option Setting → Setting) (setting : Setting) : Setting :=
  setting.withEntries (updateEntry key alter setting.entries)

mutual

/-- Merges a setting into what stands under a key. -/
def assign (key : Text) : Setting → Setting → Setting
  | .table _ entries, setting =>
    setting.update key (fun old => assignAll entries (old.getD empty))
  | .list origin items, setting => setting.update key (fun _ => .list origin items)
  | .scalar origin value, setting => setting.update key (fun _ => .scalar origin value)

def assignAll : List (Text × Setting) → Setting → Setting
  | [], setting => setting
  | (key, value) :: rest, setting => assignAll rest (assign (Text.lower key) value setting)

end

mutual

def decEq : (left right : Setting) → Decidable (left = right)
  | .scalar origin value, .scalar other value' =>
    decidable_of_iff' (origin = other ∧ value = value') (by rw [scalar.injEq])
  | .list origin items, .list other items' =>
    have := decEqItems items items'
    decidable_of_iff' (origin = other ∧ items = items') (by rw [list.injEq])
  | .table origin entries, .table other entries' =>
    have := decEqEntries entries entries'
    decidable_of_iff' (origin = other ∧ entries = entries') (by rw [table.injEq])
  | .scalar .., .list .. | .scalar .., .table .. | .list .., .scalar .. | .list .., .table ..
  | .table .., .scalar .. | .table .., .list .. => isFalse nofun

def decEqItems : (left right : List Setting) → Decidable (left = right)
  | [], [] => isTrue rfl
  | [], _ :: _ | _ :: _, [] => isFalse nofun
  | item :: items, item' :: items' =>
    have := decEq item item'
    have := decEqItems items items'
    decidable_of_iff' (item = item' ∧ items = items') (by rw [List.cons.injEq])

def decEqEntries : (left right : List (Text × Setting)) → Decidable (left = right)
  | [], [] => isTrue rfl
  | [], _ :: _ | _ :: _, [] => isFalse nofun
  | (key, value) :: entries, (key', value') :: entries' =>
    have := decEq value value'
    have := decEqEntries entries entries'
    decidable_of_iff' ((key = key' ∧ value = value') ∧ entries = entries')
      (by rw [List.cons.injEq, Prod.mk.injEq])

end
instance : DecidableEq Setting := decEq

end Setting

end ParserRefresh
