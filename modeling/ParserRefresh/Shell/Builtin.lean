import ParserRefresh.Shell.Start

/-! # Commands of the shell itself

Some commands change the process that runs the script, so no program can do their work. -/

namespace ParserRefresh.Shell

namespace Process

def signals : List (Text × Nat) :=
  [("HUP".toList, 1), ("INT".toList, 2), ("QUIT".toList, 3), ("ILL".toList, 4),
    ("TRAP".toList, 5), ("ABRT".toList, 6), ("BUS".toList, 7), ("FPE".toList, 8),
    ("KILL".toList, 9), ("USR1".toList, 10), ("SEGV".toList, 11), ("USR2".toList, 12),
    ("PIPE".toList, 13), ("ALRM".toList, 14), ("TERM".toList, 15)]

def signal? (word : Text) : Option Nat :=
  (number? word).or ((signals.lookup word).or
    ((Text.after? "SIG".toList word).bind (fun name => signals.lookup name)))

def kill (line : Nat) (words : List Text) (process : Process) : Process :=
  let (signal, target) := match words with
    | ['-', 's'] :: name :: rest => (signal? name, rest.headD [])
    | ('-' :: name) :: rest => (signal? name, rest.headD [])
    | rest => (some 15, rest.headD [])
  match signal with
  | none => process.report line "kill: invalid signal number or name".toList 2
  | some signal =>
    if number? target = some process.id then
      if signal = 0 ∨ signal ∈ [17, 18, 23, 28] then { process with status := 0 }
      else process.finish (.killed signal)
    else process.report line "kill: No such process".toList 1

def enter (line : Nat) (words : List Text) (process : Process) : Process :=
  let target := words.headD "/root".toList
  match process.files.resolve ⟨target⟩ with
  | .ok (location, .directory) =>
    { process with files := { process.files with workingDirectory := location }, status := 0 }
  | _ => process.report line ("cd: can't cd to ".toList ++ target) 2

def echo : Utility := fun words deed =>
  let (line, ends) := match words with
    | ['-', 'n'] :: words => (Text.join ' ' words, false)
    | words => (Text.join ' ' words, true)
  let (bytes, stopped) := Printed.unescape true line
  deed.print (if ends ∧ !stopped then bytes ++ [10] else bytes)

def exportAll (words : List Text) (process : Process) : Process :=
  words.foldl (fun process word =>
    let name := word.takeWhile (· != '=')
    let process := { process with exported := name :: process.exported }
    match word.drop name.length with
    | _ :: value => process.setVariable name value
    | [] => process) { process with status := 0 }

def own? (line : Nat) (name : Text) (words : List Text) (process : Process) : Option Process :=
  match String.ofList name with
  | ":" | "set" | "trap" | "umask" | "wait" => some { process with status := 0 }
  | "exit" =>
    let status := ((words.head?.bind number?).getD process.status) % 256
    some ({ process with status }.finish (.exited status))
  | "kill" => some (process.kill line words)
  | "cd" => some (process.enter line words)
  | "echo" => some (process.perform echo words)
  | "export" => some (process.exportAll words)
  | "unset" =>
    some { process with
      bindings := process.bindings.filter (fun known => !words.contains known.1)
      status := 0 }
  | "shift" =>
    let count := ((words.head?.bind number?).getD 1)
    some { process with args := process.args.drop count, status := 0 }
  | _ => none

end Process

end ParserRefresh.Shell
