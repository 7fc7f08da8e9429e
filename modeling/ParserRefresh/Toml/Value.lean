import ParserRefresh.Number.Binary64

/-! # TOML values and tables

A document is a table of values. While it is read, a table remembers how it came about: by a
header of its own, by a dotted key, or only on the way to something deeper. That decides whether
later lines may still add to it. -/

namespace ParserRefresh.Toml

/-- A value; a date or a time is kept as its text. -/
inductive Value where
  | text (chars : Text)
  | integer (number : Int)
  | real (number : Binary64)
  | boolean (flag : Bool)
  | list (items : List Value)
  | table (entries : List (Text × Value))

/-- What stands under a key of a table that is being read. -/
inductive Node where
  | value (value : Value)
  /-- A table, with whether a header names it and whether a dotted key made it. -/
  | table (named dotted : Bool) (entries : List (Text × Node))
  /-- Tables under one header; lines go into the last. -/
  | tables (earlier : List (List (Text × Node))) (last : List (Text × Node))

abbrev Entries := List (Text × Node)

mutual

def Node.finish : Node → Value
  | .value value => value
  | .table _ _ entries => .table (finishEntries entries)
  | .tables earlier last => .list (finishTables earlier ++ [.table (finishEntries last)])

def finishEntries : List (Text × Node) → List (Text × Value)
  | [] => []
  | (key, node) :: rest => (key, node.finish) :: finishEntries rest

def finishTables : List (List (Text × Node)) → List Value
  | [] => []
  | entries :: rest => .table (finishEntries entries) :: finishTables rest

end

def change (key : Text) (alter : Option Node → Option Node) : Entries → Option Entries
  | [] => (alter none).map (fun node => [(key, node)])
  | (name, node) :: rest =>
    if name = key then (alter (some node)).map (fun node => (name, node) :: rest)
    else (change key alter rest).map ((name, node) :: ·)

/-- Goes down a path of keys and changes the entries found there. Tables that are missing on the
way are made. A way by dotted keys may not enter a table that a header names; `dotted` is whether
the table at hand was made by such a way, which the change is told. -/
def descend (byDots : Bool) (alter : Bool → Entries → Option Entries) :
    List Text → Bool → Entries → Option Entries
  | [], dotted, entries => alter dotted entries
  | key :: path, _, entries =>
    change key (fun found =>
      match found with
      | none => (descend byDots alter path byDots []).map (.table false byDots)
      | some (.value _) => none
      | some (.table named dotted inner) =>
        if byDots && named then none
        else (descend byDots alter path dotted inner).map (.table named dotted)
      | some (.tables earlier last) => (descend byDots alter path false last).map (.tables earlier))
      entries

/-- Adds a value under a path of keys to the table at hand, which no dotted key made. The table
that takes the value must have been made by dotted keys if and only if they lead to it. -/
def addValue (path : List Text) (key : Text) (value : Value) (entries : Entries) :
    Option Entries :=
  descend true (fun dotted inner =>
    if dotted == path.isEmpty then none
    else
      change key (fun found =>
        match found with
        | none => some (.value value)
        | some _ => none) inner) path false entries

def openTable (path : List Text) (key : Text) (entries : Entries) : Option Entries :=
  descend false (fun _ inner =>
    change key (fun found =>
      match found with
      | none => some (.table true false [])
      | some (.table false false inner) => some (.table true false inner)
      | some _ => none) inner) path false entries

def openNext (path : List Text) (key : Text) (entries : Entries) : Option Entries :=
  descend false (fun _ inner =>
    change key (fun found =>
      match found with
      | none => some (.tables [] [])
      | some (.tables earlier last) => some (.tables (earlier ++ [last]) [])
      | some _ => none) inner) path false entries

def addBelow (header : List Text) (path : List Text) (key : Text) (value : Value)
    (entries : Entries) : Option Entries :=
  descend false (fun _ inner => addValue path key value inner) header false entries

end ParserRefresh.Toml
