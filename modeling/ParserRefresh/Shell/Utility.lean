import ParserRefresh.Files.Write
import ParserRefresh.Shell.Printed

/-! # Utilities

A utility is a program that the system has: it is given words, reads its input, changes files,
prints to two streams, and ends with a status, which is zero when all went well. -/

namespace ParserRefresh.Shell

/-- The streams that a program prints to. -/
inductive Channel where
  | output
  | errors
  deriving DecidableEq

/-- The work of a utility so far. -/
structure Deed where
  files : FileSystem
  input : List UInt8
  /-- What has been printed, in order. -/
  written : List (Channel × List UInt8) := []
  status : Nat := 0

namespace Deed

def print (deed : Deed) (bytes : List UInt8) : Deed :=
  { deed with written := deed.written ++ [(.output, bytes)] }

def say (deed : Deed) (line : Text) : Deed := deed.print (Text.toUtf8 (line ++ ['\n']))

def sayAll (deed : Deed) (lines : List Text) : Deed :=
  deed.print (Text.toUtf8 (lines.flatMap (fun line => line ++ ['\n'])))

def complain (deed : Deed) (line : Text) (status : Nat := 1) : Deed :=
  { deed with
    written := deed.written ++ [(.errors, Text.toUtf8 (line ++ ['\n']))]
    status := max deed.status status }

def change (deed : Deed) (complaint : Text) : Except Refusal FileSystem → Deed
  | .ok files => { deed with files }
  | .error refusal => deed.complain (complaint ++ ": ".toList ++ refusal.reason)

end Deed

abbrev Utility := List Text → Deed → Deed

namespace Utility

def quote (text : Text) : Text := '\'' :: text ++ ['\'']

def misuse (name complaint : Text) (deed : Deed) : Deed :=
  let deed := deed.complain (name ++ ": ".toList ++ complaint)
  deed.complain ("Try '".toList ++ name ++ " --help' for more information.".toList)

/-- The letters given as options, and the other words. A letter that is no option is returned
alone. -/
def options (known : Text) : List Text → Except Text (Text × List Text)
  | [] => .ok ([], [])
  | ['-', '-'] :: words => .ok ([], words)
  | ('-' :: '-' :: name) :: _ => .error ("unrecognized option ".toList ++ quote ('-' :: '-' :: name))
  | ('-' :: c :: letters) :: words =>
    match (c :: letters).find? (fun letter => !known.contains letter) with
    | some letter => .error ("invalid option -- ".toList ++ quote [letter])
    | none => do
      let (more, operands) ← options known words
      .ok (c :: letters ++ more, operands)
  | word :: words => do
    let (letters, operands) ← options known words
    .ok (letters, word :: operands)

/-- A utility with options and at least one operand for each of the things it needs. -/
def withOptions (name known : String) (needed : List String)
    (act : Text → List Text → Deed → Deed) : Utility := fun words deed =>
  match options known.toList words with
  | .error complaint => misuse name.toList complaint deed
  | .ok (letters, operands) =>
    match needed.drop operands.length, operands.getLast? with
    | [], _ => act letters operands deed
    | lack :: _, none => misuse name.toList ("missing ".toList ++ lack.toList) deed
    | lack :: _, some last =>
      misuse name.toList ("missing ".toList ++ lack.toList ++ " after ".toList ++ quote last) deed

def echo : Utility := fun words deed =>
  match words with
  | ['-', 'n'] :: words => deed.print (Text.toUtf8 (Text.join ' ' words))
  | ['-', 'e'] :: words =>
    let (bytes, stopped) := Printed.unescape true (Text.join ' ' words)
    deed.print (if stopped then bytes else bytes ++ [10])
  | words => deed.say (Text.join ' ' words)

def printf : Utility := fun words deed =>
  match words with
  | [] => misuse "printf".toList "missing operand".toList deed
  | format :: args => deed.print (Printed.formatted format args)

def contents (name : Text) (operand : Text) (deed : Deed) : Option (List UInt8) × Deed :=
  if operand = ['-'] then (some deed.input, { deed with input := [] })
  else
    match deed.files.readContents ⟨operand⟩ with
    | .ok (_, contents) => (some contents.bytes, deed)
    | .error refusal =>
      (none, deed.complain (name ++ ": ".toList ++ operand ++ ": ".toList ++ refusal.reason))

def orInput (operands : List Text) : List Text := if operands.isEmpty then [['-']] else operands

def cat : Utility := withOptions "cat" "u" [] fun _ operands deed =>
  (orInput operands).foldl (fun deed operand =>
    match contents "cat".toList operand deed with
    | (some bytes, deed) => deed.print bytes
    | (none, deed) => deed) deed

/-- Where a file ends up that is brought to a target: in it, if that is a directory. -/
def destination (files : FileSystem) (source target : Text) : Path :=
  if files.isDirectory ⟨target⟩ then
    (Path.mk target).join ⟨((Path.mk source).fileName?).getD source⟩
  else ⟨target⟩

/-- The entries below a location, each moved to the same place below another. -/
def transplanted (files : FileSystem) (source target : Location) : List (Location × Entry) :=
  (files.entries.filter (fun entry => source.isPrefixOf entry.1)).map (fun (location, entry) =>
    (target ++ location.drop source.length, entry))

def copyOne (recursive : Bool) (target source : Text) (deed : Deed) : Deed :=
  match deed.files.resolve ⟨source⟩ with
  | .error refusal =>
    deed.complain ("cp: cannot stat ".toList ++ quote source ++ ": ".toList ++ refusal.reason)
  | .ok (location, entry) =>
    let path := destination deed.files source target
    match entry with
    | .file contents executable =>
      let complaint := "cp: cannot create regular file ".toList ++ quote path.text
      match deed.files.locate .create path with
      | .ok (.vacant place) =>
        { deed with files := deed.files.put place (.file contents executable) }
      | _ => deed.change complaint (deed.files.write path contents)
    | _ =>
      if recursive then
        match deed.files.locate .name path with
        | .ok (.present place _) | .ok (.vacant place) =>
          { deed with
            files := (transplanted deed.files location place).foldl
              (fun files (location, entry) => files.put location entry) deed.files }
        | .error refusal =>
          deed.complain ("cp: cannot create directory ".toList ++ quote path.text ++
            ": ".toList ++ refusal.reason)
      else deed.complain ("cp: -r not specified; omitting directory ".toList ++ quote source)

def moveOne (target source : Text) (deed : Deed) : Deed :=
  match deed.files.locate .name ⟨source⟩ with
  | .error refusal =>
    deed.complain ("mv: cannot stat ".toList ++ quote source ++ ": ".toList ++ refusal.reason)
  | .ok (.vacant _) =>
    deed.complain ("mv: cannot stat ".toList ++ quote source ++ ": ".toList ++
      Refusal.noEntry.reason)
  | .ok (.present location _) =>
    let path := destination deed.files source target
    match deed.files.locate .name path with
    | .ok (.present place _) | .ok (.vacant place) =>
      if place = location then
        deed.complain ("mv: ".toList ++ quote source ++ " and ".toList ++ quote path.text ++
          " are the same file".toList)
      else
        let moved := transplanted deed.files location place
        let cleared := (deed.files.remove location).remove place
        { deed with files := { cleared with entries := cleared.entries ++ moved } }
    | .error refusal =>
      deed.complain ("mv: cannot move ".toList ++ quote source ++ " to ".toList ++
        quote path.text ++ ": ".toList ++ refusal.reason)

/-- Brings the operands but the last one to the last one. -/
def bring (one : Text → Text → Deed → Deed) (operands : List Text) (deed : Deed) : Deed :=
  let target := operands.getLast?.getD []
  operands.dropLast.foldl (fun deed source => one target source deed) deed

def cp : Utility := withOptions "cp" "afpRr" ["file operand", "destination file operand"]
  fun letters => bring (copyOne (letters.any ['a', 'R', 'r'].contains))

def mv : Utility := withOptions "mv" "f" ["file operand", "destination file operand"]
  fun _ => bring moveOne

def removeOne (letters : Text) (operand : Text) (deed : Deed) : Deed :=
  let complaint := "rm: cannot remove ".toList ++ quote operand ++ ": ".toList
  match deed.files.locate .name ⟨operand⟩ with
  | .ok (.present location entry) =>
    if entry = .directory ∧ !letters.any ['R', 'r'].contains then
      deed.complain (complaint ++ Refusal.isDirectory.reason)
    else { deed with files := deed.files.remove location }
  | .ok (.vacant _) | .error .noEntry | .error .notDirectory =>
    if letters.contains 'f' then deed else deed.complain (complaint ++ Refusal.noEntry.reason)
  | .error refusal => deed.complain (complaint ++ refusal.reason)

def rm : Utility := fun words deed =>
  let forced := words.any (fun word => ['-', 'f'].isPrefixOf word || word == "-rf".toList)
  withOptions "rm" "fRr" (if forced then [] else ["operand"]) (fun letters operands deed =>
    operands.foldl (fun deed operand => removeOne letters operand deed) deed) words deed

def mkdir : Utility := withOptions "mkdir" "p" ["operand"] fun letters operands deed =>
  operands.foldl (fun deed operand =>
    let complaint := "mkdir: cannot create directory ".toList ++ quote operand
    if letters.contains 'p' then
      match deed.files.ensureDirectories ⟨operand⟩ with
      | (.ok (), files) => { deed with files }
      | (.error refusal, files) => { deed with files }.change complaint (.error refusal)
    else deed.change complaint (deed.files.makeDirectory ⟨operand⟩)) deed

def rmdir : Utility := withOptions "rmdir" "" ["operand"] fun _ operands deed =>
  operands.foldl (fun deed operand =>
    let complaint := "rmdir: failed to remove ".toList ++ quote operand ++ ": ".toList
    match deed.files.locate .name ⟨operand⟩ with
    | .ok (.present location .directory) =>
      if (transplanted deed.files location []).length = 1 then
        { deed with files := deed.files.remove location }
      else deed.complain (complaint ++ "Directory not empty".toList)
    | .ok (.present ..) => deed.complain (complaint ++ Refusal.notDirectory.reason)
    | .ok (.vacant _) => deed.complain (complaint ++ Refusal.noEntry.reason)
    | .error refusal => deed.complain (complaint ++ refusal.reason)) deed

def touch : Utility := withOptions "touch" "" ["file operand"] fun _ operands deed =>
  operands.foldl (fun deed operand =>
    let complaint := "touch: cannot touch ".toList ++ quote operand
    match deed.files.locate .create ⟨operand⟩ with
    | .ok (.present ..) | .error .isDirectory => deed
    | .ok (.vacant location) =>
      { deed with files := deed.files.put location (.file (.text []) false) }
    | .error refusal => deed.change complaint (.error refusal)) deed

def ln : Utility := withOptions "ln" "fs" ["file operand", "file operand"] fun _ operands deed =>
  bring (fun link target deed =>
    let path := destination deed.files target link
    let complaint := "ln: failed to create symbolic link ".toList ++ quote path.text ++ ": ".toList
    match deed.files.locate .name path with
    | .ok (.vacant location) => { deed with files := deed.files.put location (.link ⟨target⟩) }
    | .ok (.present ..) => deed.complain (complaint ++ Refusal.alreadyExists.reason)
    | .error refusal => deed.complain (complaint ++ refusal.reason)) operands deed

/-- Whether a file with this mode can be run: the mode sets a bit for it, in digits or letters. -/
def runs (mode : Text) : Bool :=
  mode.any (fun c => c = '1' ∨ c = '3' ∨ c = '5' ∨ c = '7') ||
    (mode.contains 'x' && !mode.contains '-')

def chmod : Utility := fun words deed =>
  match words with
  | [] => misuse "chmod".toList "missing operand".toList deed
  | [mode] => misuse "chmod".toList ("missing operand after ".toList ++ quote mode) deed
  | mode :: operands =>
    operands.foldl (fun deed operand =>
      match deed.files.resolve ⟨operand⟩ with
      | .ok (location, .file contents executable) =>
        let executable := if mode.contains 'r' ∧ !mode.contains 'x' then executable else runs mode
        { deed with files := deed.files.put location (.file contents executable) }
      | .ok _ => deed
      | .error refusal =>
        deed.complain ("chmod: cannot access ".toList ++ quote operand ++ ": ".toList ++
          refusal.reason)) deed

def names (files : FileSystem) (location : Location) : List Text :=
  let found := files.entries.filterMap (fun (place, _) =>
    if place.dropLast = location ∧ place ≠ [] then place.getLast? else none)
  (found.map String.ofList).mergeSort (fun left right => decide (left ≤ right))
    |>.map String.toList

def listed (letters : Text) (files : FileSystem) (location : Location) : List Text :=
  let found := names files location
  if letters.contains 'a' then ['.'] :: ['.', '.'] :: found
  else if letters.contains 'A' then found
  else found.filter (fun name => name.head? != some '.')

def ls : Utility := withOptions "ls" "1aA" [] fun letters operands deed =>
  let operands := if operands.isEmpty then [['.']] else operands
  operands.foldl (fun deed operand =>
    match deed.files.resolve ⟨operand⟩ with
    | .ok (location, .directory) =>
      let heading := if operands.length = 1 then []
        else if deed.written.isEmpty then [operand ++ [':']]
        else [[], operand ++ [':']]
      deed.sayAll (heading ++ listed letters deed.files location)
    | .ok _ => deed.say operand
    | .error refusal =>
      deed.complain ("ls: cannot access ".toList ++ quote operand ++ ": ".toList ++
        refusal.reason) 2) deed

def pwd : Utility := fun _ deed =>
  deed.say (FileSystem.absolute deed.files.workingDirectory).text

def numerals (first last : Nat) : List Text :=
  (List.range' first (last + 1 - first)).map (fun n => (toString n).toList)

def seq : Utility := fun words deed =>
  let number (word : Text) : Nat := ((String.ofList word).toNat?).getD 0
  match words with
  | [last] => deed.sayAll (numerals 1 (number last))
  | [first, last] => deed.sayAll (numerals (number first) (number last))
  | _ => misuse "seq".toList "missing operand".toList deed

def condition? (files : FileSystem) (words : List Text) : Option Bool :=
  let number? (word : Text) : Option Int := (String.ofList word).toInt?
  match words with
  | [] => some false
  | [word] => some (!word.isEmpty)
  | ['!'] :: rest =>
    match rest with
    | [word] => some word.isEmpty
    | [test, word] => (unary? test word).map (!·)
    | [left, relation, right] => (binary? number? left relation right).map (!·)
    | _ => none
  | [test, word] => unary? test word
  | [left, relation, right] => binary? number? left relation right
  | _ => none
where
  /-- A condition on one word. -/
  unary? (test word : Text) : Option Bool :=
    let path : Path := ⟨word⟩
    match test with
    | ['-', 'n'] => some (!word.isEmpty)
    | ['-', 'z'] => some word.isEmpty
    | ['-', 'e'] => some ((files.resolve path).isOk)
    | ['-', 'f'] => some (files.isFile path)
    | ['-', 'd'] => some (files.isDirectory path)
    | ['-', 'r'] | ['-', 'w'] => some ((files.resolve path).isOk)
    | ['-', 'L'] | ['-', 'h'] =>
      some (match files.locate .name path with
        | .ok (.present _ (.link _)) => true
        | _ => false)
    | ['-', 'x'] =>
      some (match files.resolve path with
        | .ok (_, .file _ executable) => executable
        | .ok _ => true
        | .error _ => false)
    | ['-', 's'] =>
      some (match files.readContents path with
        | .ok (_, contents) => contents != .text []
        | .error refusal => refusal == .isDirectory)
    | _ => none
  /-- A condition on two words. -/
  binary? (number? : Text → Option Int) (left relation right : Text) : Option Bool :=
    match relation with
    | ['='] | ['=', '='] => some (left == right)
    | ['!', '='] => some (left != right)
    | _ => do
      let m ← number? left
      let n ← number? right
      match relation with
      | ['-', 'e', 'q'] => some (m == n)
      | ['-', 'n', 'e'] => some (m != n)
      | ['-', 'l', 't'] => some (decide (m < n))
      | ['-', 'l', 'e'] => some (decide (m ≤ n))
      | ['-', 'g', 't'] => some (decide (n < m))
      | ['-', 'g', 'e'] => some (decide (n ≤ m))
      | _ => none

def test : Utility := fun words deed =>
  match condition? deed.files words with
  | some true => deed
  | some false => { deed with status := max deed.status 1 }
  | none => deed.complain "test: unexpected operator".toList 2

def bracket : Utility := fun words deed =>
  if words.getLast? = some [']'] then test words.dropLast deed
  else deed.complain "[: missing ]".toList 2

def succeed : Utility := fun _ deed => deed

def fail : Utility := fun _ deed => { deed with status := max deed.status 1 }

def all : List (Text × Utility) :=
  [("echo".toList, echo), ("printf".toList, printf), ("cat".toList, cat), ("cp".toList, cp),
    ("mv".toList, mv), ("rm".toList, rm), ("mkdir".toList, mkdir), ("rmdir".toList, rmdir),
    ("touch".toList, touch), ("ln".toList, ln), ("chmod".toList, chmod), ("ls".toList, ls),
    ("pwd".toList, pwd), ("seq".toList, seq), ("test".toList, test), (['['], bracket),
    ("true".toList, succeed), ("false".toList, fail), ("sleep".toList, succeed)]

end Utility

end ParserRefresh.Shell
