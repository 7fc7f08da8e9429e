import ParserRefresh.Shell.Utility

/-! # Processes

A process runs a script on the files. What it prints goes to sinks: buffers that somebody reads
later, or files. A process ends with a status or is killed by a signal; either way nothing of its
script is run any more. -/

namespace ParserRefresh.Shell

inductive Sink where
  | buffer (index : Nat)
  | file (location : Location)
  | nowhere
  deriving DecidableEq

inductive Ending where
  | exited (status : Nat)
  | killed (signal : Nat)
  deriving DecidableEq

/-- A running process. -/
structure Process where
  files : FileSystem
  /-- The name under which the script was started, and the words after it. -/
  name : Text
  args : List Text
  bindings : List (Text × Text) := []
  /-- The variables that started programs know, too. -/
  exported : List Text := []
  /-- The number of the process. -/
  id : Nat := 1000
  status : Nat := 0
  input : List UInt8 := []
  output : Sink := .buffer 0
  errors : Sink := .buffer 1
  buffers : List (List UInt8) := [[], []]
  ending : Option Ending := none

/-- How the text of a script is run. -/
abbrev Interpreter := Text → Process → Process

namespace Process

def send (process : Process) (sink : Sink) (bytes : List UInt8) : Process :=
  match sink with
  | .nowhere => process
  | .buffer index => { process with buffers := process.buffers.modify index (· ++ bytes) }
  | .file location =>
    match process.files.find? location with
    | some (.file contents executable) =>
      let entry := Entry.file (.ofBytes (contents.bytes ++ bytes)) executable
      { process with files := process.files.put location entry }
    | _ => process

def report (process : Process) (line : Nat) (complaint : Text) (status : Nat) : Process :=
  let shown := process.name ++ ": ".toList ++ (toString line).toList ++ ": ".toList ++ complaint
  { process.send process.errors (Text.toUtf8 (shown ++ ['\n'])) with status }

def finish (process : Process) (ending : Ending) : Process :=
  { process with ending := some (process.ending.getD ending) }

def perform (process : Process) (utility : Utility) (words : List Text) : Process :=
  let deed := utility words { files := process.files, input := process.input }
  let process := { process with files := deed.files, input := deed.input, status := deed.status }
  deed.written.foldl (fun process (channel, bytes) =>
    process.send (if channel = .output then process.output else process.errors) bytes) process

def number? (text : Text) : Option Nat :=
  if text.isEmpty || !text.all Char.isDigit then none else (String.ofList text).toNat?

def value (process : Process) (name : Text) : Text :=
  match name with
  | ['?'] => (toString process.status).toList
  | ['$'] => (toString process.id).toList
  | ['#'] => (toString process.args.length).toList
  | ['@'] | ['*'] => Text.join ' ' process.args
  | ['0'] => process.name
  | ['P', 'W', 'D'] => (FileSystem.absolute process.files.workingDirectory).text
  | name =>
    match number? name with
    | some position => (process.args[position - 1]?).getD []
    | none => (process.bindings.lookup name).getD []

def setVariable (process : Process) (name value : Text) : Process :=
  let others := process.bindings.filter (fun known => known.1 != name)
  { process with bindings := (name, value) :: others }

/-- Runs something with a buffer for its output, which is returned. -/
def collect (run : Process → Process) (process : Process) : List UInt8 × Process :=
  let index := process.buffers.length
  let inner := run { process with buffers := process.buffers ++ [[]], output := .buffer index }
  ((inner.buffers[index]?).getD [],
    { inner with buffers := inner.buffers.take index, output := process.output })

/-- Runs something whose variables, directory and end are its own. A signal to the process ends
it from there, too. -/
def aside (run : Process → Process) (process : Process) : Process :=
  let inner := run process
  let home := process.files.workingDirectory
  let after := { process with
    files := { inner.files with workingDirectory := home }
    input := inner.input
    buffers := inner.buffers
    status := inner.status }
  match inner.ending with
  | none => after
  | some (.exited status) => { after with status }
  | some (.killed signal) => after.finish (.killed signal)

end Process

end ParserRefresh.Shell
