import ParserRefresh.Files.Basic
import ParserRefresh.Options
import ParserRefresh.Warning

/-! # Running commands

An invocation is a command with all its arguments and the directory it runs in. What a command
does is a parameter of the library: a runner takes an invocation and the files to an output, or
to a fault when the command cannot be run, and to the files that the command leaves behind. -/

namespace ParserRefresh

/-- A command line that is ready to run. -/
structure Invocation where
  program : Text
  args : List Text
  workingDirectory : Path
  deriving DecidableEq

def Invocation.shown (invocation : Invocation) : Text :=
  " ".toList.intercalate (invocation.program :: invocation.args)

/-- What a finished command left behind. A command that was killed has no status. -/
structure CommandOutput where
  stdout : Text
  stderr : Text
  status : Option Int
  success : Bool
  deriving DecidableEq

/-- The output of a successful command, or the fault of a failed one. The fault shows what the
command wrote to its error stream, or its ordinary output if that is blank. -/
def CommandOutput.requireSuccess (output : CommandOutput) (invocation : Invocation) :
    Except Fault CommandOutput :=
  if output.success then .ok output
  else
    let diagnostics := if Text.isBlank output.stderr then output.stdout else output.stderr
    .error (Cause.failedCommand invocation.shown output.status diagnostics)

/-- How commands are run: from an invocation, the state of whoever runs it and the files, to the
result and the new state and files. -/
abbrev Runner (σ : Type) := Invocation → σ → FileSystem → Except Fault CommandOutput × σ × FileSystem

end ParserRefresh
