import ParserRefresh.Shell.Expansion

/-! # Redirections

A redirection leads a stream to a file or to where another stream goes. The first one that cannot
be carried out keeps a command from being run. -/

namespace ParserRefresh.Shell

namespace Process

def sinkOf (process : Process) (stream : Nat) : Sink :=
  if stream = 1 then process.output else if stream = 2 then process.errors else .nowhere

def lead (process : Process) (stream : Nat) (sink : Sink) : Process :=
  if stream = 1 then { process with output := sink }
  else if stream = 2 then { process with errors := sink }
  else process

def refusalText (missing : String) (refusal : Refusal) : Text :=
  if refusal = .noEntry ∨ refusal = .notDirectory then missing.toList else refusal.reason

def redirect (interpret : Interpreter) (line : Nat)
    (state : Bool × Process) (redirection : Redirection) : Bool × Process :=
  let (fine, process) := state
  if !fine then state
  else
    match redirection.target with
    | .stream word =>
      let (text, process) := expandWhole interpret word process
      let sink := match number? text with
        | some stream => process.sinkOf stream
        | none => .nowhere
      (true, process.lead redirection.stream sink)
    | .source word =>
      let (text, process) := expandWhole interpret word process
      if text = "/dev/null".toList then (true, { process with input := [] })
      else
        match process.files.readContents ⟨text⟩ with
        | .ok (_, contents) => (true, { process with input := contents.bytes })
        | .error refusal =>
          let complaint := "cannot open ".toList ++ text ++ ": ".toList ++
            refusalText "No such file" refusal
          (false, process.report line complaint 2)
    | .sink word append =>
      let (text, process) := expandWhole interpret word process
      if text = "/dev/null".toList then (true, process.lead redirection.stream .nowhere)
      else
        let old := match process.files.readContents ⟨text⟩ with
          | .ok (_, contents) => if append then contents else .text []
          | .error _ => .text []
        let opened := do
          let files ← process.files.write ⟨text⟩ old
          let (location, _) ← files.resolve ⟨text⟩
          return (files, location)
        match opened with
        | .ok (files, location) =>
          (true, { process with files }.lead redirection.stream (.file location))
        | .error refusal =>
          let complaint := "cannot create ".toList ++ text ++ ": ".toList ++
            refusalText "Directory nonexistent" refusal
          (false, process.report line complaint 2)

def redirected (interpret : Interpreter) (line : Nat)
    (redirections : List Redirection) (run : Process → Process) (process : Process) : Process :=
  let (fine, led) := redirections.foldl (redirect interpret line) (true, process)
  let after := if fine then run led else led
  { after with
    output := process.output
    errors := process.errors
    input := if redirections.any (fun led => led.stream == 0) then process.input else after.input }

end Process

end ParserRefresh.Shell
