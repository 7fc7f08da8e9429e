import ParserRefresh.Command
import ParserRefresh.Shell.Run

/-! # The system as a runner

An invocation is run as a process of its own, in its directory and with no input. It cannot be
run when the directory is not there or the program cannot be started; what it prints need not be
UTF-8. -/

namespace ParserRefresh.Shell

/-- What an ended process leaves to the one who has started it. -/
def Process.toOutput (process : Process) : CommandOutput :=
  let printed (index : Nat) : Text := Text.ofUtf8Lenient ((process.buffers[index]?).getD [])
  let status : Option Int := match process.ending with
    | none => some process.status
    | some (.exited status) => some status
    | some (.killed _) => none
  ⟨printed 0, printed 1, status, status == some 0⟩

def launch (invocation : Invocation) (files : FileSystem) : Except Refusal Process :=
  match files.resolve invocation.workingDirectory with
  | .error refusal => .error refusal
  | .ok (location, .directory) =>
    let files := { files with workingDirectory := location }
    Process.start (Process.runLines (Process.run Process.bound)) invocation.program invocation.args
      { files, name := invocation.program, args := invocation.args }
  | .ok _ => .error .notDirectory

def runner {σ : Type} : Runner σ := fun invocation agent files =>
  let refuse (reason : Text) : Except Fault CommandOutput :=
    .error (Cause.failedCommand invocation.shown none ("failed to start: ".toList ++ reason))
  let words := invocation.workingDirectory.text :: invocation.program :: invocation.args
  if words.any (fun word => word.contains '\x00') then
    (refuse "nul byte found in provided data".toList, agent, files)
  else
    match launch invocation files with
    | .error refusal => (refuse refusal.message, agent, files)
    | .ok process =>
      (.ok process.toOutput, agent,
        { process.files with workingDirectory := files.workingDirectory })

end ParserRefresh.Shell
