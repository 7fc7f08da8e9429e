import ParserRefresh.Shell.Redirect

/-! # Starting programs

A program is a utility, the shell, or a file that can be run and names one of these in its first
line. A process that starts a program becomes that program; a script that calls one has another
process become it. -/

namespace ParserRefresh.Shell

namespace Process

def shellNames : List Text := ["sh".toList, "dash".toList, "bash".toList]

def systemName? (program : Text) : Option Text :=
  let name :=
    if program.contains '/' then
      (Text.after? "/usr/bin/".toList program).or (Text.after? "/bin/".toList program)
    else some program
  match name with
  | some name =>
    if shellNames.contains name || (Utility.all.lookup name).isSome then some name else none
  | none => none

def renew (process : Process) (name : Text) (args : List Text) : Process :=
  { process with
    name, args, status := 0
    bindings := process.bindings.filter (fun known => process.exported.contains known.1) }

def shell (interpret : Interpreter) (name : Text) (words : List Text) (process : Process) :
    Process :=
  match words with
  | [] => interpret (Text.ofUtf8Lenient process.input) { process.renew name [] with input := [] }
  | [['-', 'c']] => (process.renew name []).report 0 "-c requires an argument".toList 2
  | ['-', 'c'] :: script :: words =>
    interpret script (process.renew (words.headD name) words.tail)
  | file :: words =>
    match process.files.readContents ⟨file⟩ with
    | .ok (_, contents) =>
      interpret (Text.ofUtf8Lenient contents.bytes) (process.renew file words)
    | .error refusal =>
      let complaint := "cannot open ".toList ++ file ++ ": ".toList ++
        refusalText "No such file" refusal
      (process.renew name []).report 0 complaint 2

def system (interpret : Interpreter) (name : Text) (words : List Text)
    (process : Process) : Except Refusal Process :=
  if shellNames.contains name then .ok (process.shell interpret name words)
  else
    match Utility.all.lookup name with
    | some utility => .ok (process.perform utility words)
    | none => .error .noEntry

def interpreter? (script : Text) : Option (List Text) :=
  (Text.after? "#!".toList script).bind (fun text =>
    let line := Text.trim (text.takeWhile (· != '\n'))
    let program := line.takeWhile (fun c => c != ' ' && c != '\t')
    let rest := Text.trim (line.drop program.length)
    if program.isEmpty then none
    else if program = "/usr/bin/env".toList then some [rest]
    else some (if rest.isEmpty then [program] else [program, rest]))

def wordLimit : Nat := 131071

/-- Becomes a program. A name without a separator is one that the system has; a path has to lead
to a file that can be run. -/
def start (interpret : Interpreter) (program : Text) (words : List Text)
    (process : Process) : Except Refusal Process :=
  if (program :: words).any (fun word => wordLimit < Text.utf8Size word) then
    .error .argumentsTooLong
  else
    match systemName? program with
    | some name => process.system interpret name words
    | none =>
      if !program.contains '/' then .error .noEntry
      else
        match process.files.resolve ⟨program⟩ with
        | .error refusal => .error refusal
        | .ok (_, .file contents true) =>
          match interpreter? (Text.ofUtf8Lenient contents.bytes) with
          | none => .error .notProgram
          | some named =>
            match systemName? (named.headD []) with
            | none => .error .noEntry
            | some name => process.system interpret name (named.tail ++ program :: words)
        | .ok _ => .error .accessDenied

end Process

end ParserRefresh.Shell
