import ParserRefresh.Path

/-! # Arguments of the command line

Some options may stand before or after the name of the task; one that is given at both places
counts where it stands after. An option is written out or as a letter, its value follows as the
next argument or is attached, and letters may be put together. After two dashes nothing is an
option. An option with one value and a plain flag may be given once at each place. -/

namespace ParserRefresh

/-- What a run is asked to do. -/
inductive Task where
  | prelude (output : Option Path)
  | run
  | splice (compiled : Path)
  deriving DecidableEq

/-- What the arguments of a run say. -/
structure Arguments where
  root : Path
  config : Option Path
  /-- Single settings, in their order. -/
  settings : List Text
  json : Bool
  task : Task
  deriving DecidableEq

/-- Why arguments are not carried out. -/
inductive Halt where
  | usage
  | help
  | version
  deriving DecidableEq

namespace Arguments

inductive Switch where
  | root
  | config
  | set
  | verbose
  | json
  | output
  | help
  | version
  deriving DecidableEq

def Switch.hasValue : Switch → Bool
  | .root | .config | .set | .output => true
  | _ => false

def Switch.repeats : Switch → Bool
  | .set | .verbose => true
  | _ => false

def Switch.long : Switch → Text
  | .root => "root".toList
  | .config => "config".toList
  | .set => "set".toList
  | .verbose => "verbose".toList
  | .json => "json".toList
  | .output => "output".toList
  | .help => "help".toList
  | .version => "version".toList

def Switch.letter? : Switch → Option Char
  | .root => some 'r'
  | .config => some 'c'
  | .set => some 's'
  | .verbose => some 'v'
  | .json => none
  | .output => some 'o'
  | .help => some 'h'
  | .version => some 'V'

def everywhere : List Switch := [.root, .config, .set, .verbose, .json, .help]

abbrev Given := List (Switch × Text)

/-- Notes an option, which stops the reading if it asks for a text about the program. -/
def note (switch : Switch) (value : Text) (given : Given) : Except Halt Given :=
  if switch = .help then .error .help
  else if switch = .version then .error .version
  else if !switch.repeats && given.any (fun earlier => earlier.1 == switch) then .error .usage
  else .ok (given ++ [(switch, value)])

/-- Reads letters that are put together. An option whose value has to be the next argument is
returned. -/
def readLetters (known : List Switch) : Text → Given → Except Halt (Given × Option Switch)
  | [], given => .ok (given, none)
  | letter :: rest, given =>
    match known.find? (fun switch => switch.letter? == some letter) with
    | none => .error .usage
    | some switch =>
      if switch.hasValue then
        match rest with
        | [] => .ok (given, some switch)
        | '=' :: value => (note switch value given).map (·, none)
        | value => (note switch value given).map (·, none)
      else
        match note switch [] given with
        | .ok given => readLetters known rest given
        | .error halt => .error halt

/-- Reads an option that is written out. An option whose value has to be the next argument is
returned. -/
def readLong (known : List Switch) (word : Text) (given : Given) :
    Except Halt (Given × Option Switch) :=
  let name := word.takeWhile (· != '=')
  match known.find? (fun switch => switch.long == name) with
  | none => .error .usage
  | some switch =>
    match word.drop name.length with
    | [] =>
      if switch.hasValue then .ok (given, some switch)
      else (note switch [] given).map (·, none)
    | _ :: value => if switch.hasValue then (note switch value given).map (·, none) else .error .usage

def isOption (word : Text) : Bool := ['-'].isPrefixOf word && word != ['-']

/-- Reads an argument that is an option by its looks. An option whose value has to be the next
argument is returned. -/
def readOption (known : List Switch) (word : Text) (given : Given) :
    Except Halt (Given × Option Switch) :=
  match word with
  | '-' :: '-' :: name => readLong known name given
  | _ => readLetters known word.tail given

/-- What has been read at one place: the options, the other arguments, and the arguments that
were not looked at. -/
structure Place where
  given : Given
  words : List Text
  rest : List Text

/-- Reads arguments up to the one after `room` that are no options. -/
def readPlace (known : List Switch) (room : Nat) (place : Place) : Except Halt Place :=
  match _arguments : place.rest with
  | [] => .ok place
  | word :: rest =>
    if word = ['-', '-'] then
      if place.words.length + rest.length ≤ room then
        .ok { place with words := place.words ++ rest, rest := [] }
      else .error .usage
    else if isOption word then
      match readOption known word place.given with
      | .error halt => .error halt
      | .ok (given, none) => readPlace known room { place with given, rest }
      | .ok (given, some switch) =>
        match rest with
        | [] => .error .usage
        | value :: rest =>
          if isOption value then .error .usage
          else
            match note switch value given with
            | .error halt => .error halt
            | .ok given => readPlace known room { place with given, rest }
    else if place.words.length < room then
      readPlace known room { place with words := place.words ++ [word], rest }
    else .ok place
termination_by place.rest.length
decreasing_by
  all_goals
    rw [_arguments]
    simp only [List.length_cons]
    omega

def valueOf? (switch : Switch) (given : Given) : Option Text :=
  (given.filter (fun option => option.1 == switch)).getLast?.map Prod.snd

def valuesOf (switch : Switch) (given : Given) : List Text :=
  (given.filter (fun option => option.1 == switch)).map Prod.snd

/-- What the options before and after the name of a task say. -/
def combine (before after : Given) (task : Task) : Arguments where
  root := ⟨((valueOf? .root after).or (valueOf? .root before)).getD ['.']⟩
  config := ((valueOf? .config after).or (valueOf? .config before)).map Path.mk
  settings := if (valuesOf .set after).isEmpty then valuesOf .set before else valuesOf .set after
  json := (valueOf? .json after).isSome || (valueOf? .json before).isSome
  task := task

def taskNames : List Text := ["prelude".toList, "run".toList, "splice".toList, "help".toList]

def readTask (name : Text) (before : Given) (rest : List Text) : Except Halt Arguments :=
  let known := if name = "prelude".toList then .output :: everywhere else everywhere
  let room := if name = "splice".toList then 1 else 0
  if name = "help".toList then
    .error (if rest.all taskNames.contains then .help else .usage)
  else if !taskNames.contains name then .error .usage
  else
    match readPlace known room ⟨[], [], rest⟩ with
    | .error halt => .error halt
    | .ok place =>
      if !place.rest.isEmpty || place.words.length < room then .error .usage
      else
        let task := match place.words with
          | compiled :: _ => Task.splice ⟨compiled⟩
          | [] =>
            if name = "run".toList then .run
            else .prelude ((valueOf? .output place.given).map Path.mk)
        .ok (combine before place.given task)

def parse (words : List Text) : Except Halt Arguments :=
  match readPlace (.version :: everywhere) 0 ⟨[], [], words⟩ with
  | .error halt => .error halt
  | .ok place =>
    match place.rest with
    | [] => .error .usage
    | name :: rest => readTask name place.given rest

end Arguments

end ParserRefresh
