import ParserRefresh.Settings.Setting
import ParserRefresh.Text.Indent

/-! # Paths to settings

A path names a key and goes on with keys after dots and with positions between brackets. A
position below zero counts from the end of a list. -/

namespace ParserRefresh

inductive KeyStep where
  | child (key : Text)
  | position (index : Int)
  deriving DecidableEq

structure KeyPath where
  first : Text
  steps : List KeyStep
  deriving DecidableEq

/-- Where a text stops being a path. -/
inductive KeyFault where
  /-- No key stands at the start. -/
  | noKey
  /-- A character is out of place. -/
  | badCharacter
  /-- A bracket is not followed by digits. -/
  | noDigit
  /-- A position is too large. -/
  | tooLarge
  deriving DecidableEq

def KeyFault.message : KeyFault → Text
  | .noKey => "IsA".toList
  | .badCharacter => "Char".toList
  | .noDigit => "Digit".toList
  | .tooLarge => "Map on Result".toList

namespace KeyPath

def isKeyChar (c : Char) : Bool := c.isAlphanum || c == ' ' || c == '_' || c == '-'

def key? (text : Text) : Option (Text × Text) :=
  let key := text.takeWhile isKeyChar
  if key.isEmpty then none else some (key, text.dropWhile isKeyChar)

def fits (number : Int) : Bool := -Int.pow 2 63 ≤ number && number < Int.pow 2 63

def position (text : Text) : Except KeyFault (Int × Text) :=
  let start := text.dropWhile Text.isIndent
  let (negative, unsigned) := match start with
    | '-' :: rest => (true, rest)
    | start => (false, start)
  let digits := unsigned.takeWhile Char.isDigit
  let size : Int := digits.foldl (fun value c => value * 10 + (c.toNat - '0'.toNat)) 0
  let number := if negative then -size else size
  if digits.isEmpty then .error .noDigit
  else if !fits number then .error .tooLarge
  else
    match (unsigned.dropWhile Char.isDigit).dropWhile Text.isIndent with
    | ']' :: rest => .ok (number, rest)
    | _ => .error .badCharacter

def step (text : Text) : Except KeyFault (KeyStep × Text) :=
  match text with
  | '.' :: rest =>
    match key? rest with
    | some (key, rest) => .ok (.child key, rest)
    | none => .error .badCharacter
  | '[' :: rest => (position rest).map (fun (index, rest) => (.position index, rest))
  | _ => .error .badCharacter

def readSteps (text : Text) : Except KeyFault (List KeyStep) :=
  if text.isEmpty then .ok []
  else
    match step text with
    | .error fault => .error fault
    | .ok (first, rest) =>
      if rest.length < text.length then (readSteps rest).map (first :: ·) else .error .badCharacter
termination_by text.length

def parse (text : Text) : Except KeyFault KeyPath :=
  match key? text with
  | none => .error .noKey
  | some (first, rest) => (readSteps rest).map (⟨first, ·⟩)

end KeyPath

namespace Setting

def sizeLimit : Nat := 10000000

/-- The place of a position in a list, unless it lies before its start or too far behind its
end. -/
def place? (size : Nat) (index : Int) : Option Nat :=
  let place := if index < 0 then size + index else index
  if 0 ≤ place ∧ place < sizeLimit then some place.toNat else none

def updateItem (place : Nat) (alter : Setting → Setting) (items : List Setting) : List Setting :=
  let grown := items ++ List.replicate (place + 1 - items.length) nothing
  grown.modify place alter

/-- A list with the given items, from where the setting came if it was a list. -/
def withItems (items : List Setting) : Setting → Setting
  | .list origin _ => .list origin items
  | _ => .list none items

/-- Puts a value at the end of a path below a setting. What is in the way is replaced by a table
or a list, as the path needs it; nothing is put at a position before the start of a list. -/
def place (value : Setting) : List KeyStep → Setting → Option Setting
  | [], _ => some value
  | [.child key], setting => some (assign (Text.lower key) value setting)
  | .child key :: steps, setting =>
    let key := Text.lower key
    (place value steps ((setting.find? key).getD nothing)).map
      (fun inner => setting.update key (fun _ => inner))
  | .position index :: steps, setting =>
    match place? setting.items.length index with
    | none => none
    | some spot =>
      (place value steps ((setting.items[spot]?).getD nothing)).map
        (fun inner => setting.withItems (updateItem spot (fun _ => inner) setting.items))

def set (setting : Setting) (path : KeyPath) (value : Setting) : Option Setting :=
  place value (.child path.first :: path.steps) setting

end Setting

end ParserRefresh
