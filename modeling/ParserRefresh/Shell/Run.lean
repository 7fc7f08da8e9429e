import ParserRefresh.Shell.Builtin
import ParserRefresh.Shell.Grammar

/-! # Running scripts

The lines of a script are run one after the other, up to the first that cannot be read. A script
is run with a bound on how deep it nests and how often it repeats. -/

namespace ParserRefresh.Shell

namespace Process

def obituary (signal : Nat) : Text :=
  match signal with
  | 9 => "Killed\n".toList
  | 15 => "Terminated\n".toList
  | 11 => "Segmentation fault\n".toList
  | 6 => "Aborted\n".toList
  | 1 => "Hangup\n".toList
  | _ => ['\n']

/-- Goes on after a called program, which was `inner` in the end. -/
def resume (process inner : Process) : Process :=
  let after := { process with
    files := { inner.files with workingDirectory := process.files.workingDirectory }
    input := inner.input
    buffers := inner.buffers
    status := inner.status }
  match inner.ending with
  | none => after
  | some (.exited status) => { after with status }
  | some (.killed signal) =>
    { after.send after.errors (Text.toUtf8 (obituary signal)) with status := 128 + signal }

/-- Becomes a program that a script names. A file that names no program is a script itself. -/
def becomeNamed (interpret : Interpreter) (line : Nat) (name : Text) (words : List Text)
    (process : Process) : Process :=
  match process.start interpret name words with
  | .ok process => process
  | .error .notProgram => process.shell interpret name (name :: words)
  | .error refusal =>
    if refusal = .noEntry ∨ refusal = .notDirectory then
      process.report line (name ++ ": not found".toList) 127
    else process.report line (name ++ ": ".toList ++ refusal.reason) 126

def call (interpret : Interpreter) (line : Nat) (name : Text) (words : List Text)
    (process : Process) : Process :=
  process.resume ({ process with id := process.id + 1 }.becomeNamed interpret line name words)

def assign (interpret : Interpreter) (assignments : List (Text × Word))
    (process : Process) : Process :=
  assignments.foldl (fun process (name, word) =>
    let (value, process) := expandWhole interpret word process
    process.setVariable name value) process

def runSimple (interpret : Interpreter) (command : Simple) (process : Process) :
    Process :=
  let line := command.line
  let (words, process) := expand interpret command.words process
  redirected interpret line command.redirections (fun process =>
    match words with
    | [] =>
      let assigned := process.assign interpret command.assignments
      if command.assignments.isEmpty then { assigned with status := 0 } else assigned
    | ['e', 'x', 'e', 'c'] :: name :: words =>
      let after := process.becomeNamed interpret line name words
      after.finish (.exited after.status)
    | name :: words =>
      match own? line name words process with
      | some process => process
      | none =>
        let lent := process.assign interpret command.assignments
        let names := command.assignments.map Prod.fst
        let after := { lent with exported := names ++ lent.exported }.call interpret line name words
        { after with bindings := process.bindings, exported := process.exported }) process

def runLines (run : Script → Process → Process) (script : Text) (process : Process) : Process :=
  let (scripts, fault) := read script
  let after := scripts.foldl (fun process script => run script process) process
  match fault, after.ending with
  | some fault, none => (after.report fault.line fault.message 2).finish (.exited 2)
  | _, _ => after

/-- Runs a script. It is given up as killed when the bound is reached. -/
def run : Nat → Script → Process → Process
  | 0, _, process => process.finish (.killed 9)
  | bound + 1, script, process =>
    if process.ending.isSome then process
    else
      match script with
      | .skip => process
      | .simple command => runSimple (runLines (run bound)) command process
      | .both first second => run bound second (run bound first process)
      | .andThen first second =>
        let after := run bound first process
        if after.status = 0 then run bound second after else after
      | .orElse first second =>
        let after := run bound first process
        if after.status = 0 then after else run bound second after
      | .negated body =>
        let after := run bound body process
        { after with status := if after.status = 0 then 1 else 0 }
      | .piped first second =>
        let (bytes, after) := collect (aside (run bound first)) process
        let last := aside (run bound second) { after with input := bytes }
        { last with input := after.input }
      | .redirected line body redirections =>
        redirected (runLines (run bound)) line redirections (run bound body) process
      | .enclosed body => aside (run bound body) process
      | .branch condition success failure =>
        let after := run bound condition process
        if after.status = 0 then run bound success after
        else run bound failure { after with status := 0 }
      | .forEach name words body =>
        let (values, process) := expand (runLines (run bound)) words process
        values.foldl (fun process value => run bound body (process.setVariable name value)) process
      | .loop goal condition body =>
        let after := run bound condition process
        if (after.status = 0) = goal then run bound script (run bound body after)
        else { after with status := 0 }

def bound : Nat := 20000

end Process

end ParserRefresh.Shell
