import ParserRefresh.Command
import ParserRefresh.Files.Write
import ParserRefresh.Modules.Resolve

/-! # Actions on a project

An action reads and changes the files of a project, asks the runner for commands, and ends in a
value or a fault. What it does is kept in a journal: each command when it is asked for, each file
when it has been written, each warning when it is given. What an action did before it failed is
not undone. -/

namespace ParserRefresh

/-- What is noted in a journal. -/
inductive Event where
  | warned (warning : Warning)
  | invoked (invocation : Invocation)
  | wrote (path : Path) (text : Text)
  deriving DecidableEq

/-- The state that actions work on. -/
structure Workspace (σ : Type) where
  files : FileSystem
  /-- The state of whoever runs the commands. -/
  agent : σ
  /-- What happened, the earliest event first. -/
  journal : List Event

def Event.warnings (journal : List Event) : List Warning :=
  journal.filterMap (fun event =>
    match event with
    | .warned warning => some warning
    | _ => none)

def Event.invocations (journal : List Event) : List Invocation :=
  journal.filterMap (fun event =>
    match event with
    | .invoked invocation => some invocation
    | _ => none)

/-- A step of work on a workspace. -/
def Action (σ α : Type) := Workspace σ → Except Fault α × Workspace σ

namespace Action

variable {σ α β : Type}

def succeed (value : α) : Action σ α := fun workspace => (.ok value, workspace)

def andThen (action : Action σ α) (next : α → Action σ β) : Action σ β := fun workspace =>
  match action workspace with
  | (.ok value, workspace) => next value workspace
  | (.error fault, workspace) => (.error fault, workspace)

instance : Monad (Action σ) where
  pure := succeed
  bind := andThen

/-- An outcome that has been reached without touching the workspace. -/
def ofExcept (result : Except Fault α) : Action σ α := fun workspace => (result, workspace)

/-- Blames what goes wrong in an action on a step. -/
def during (step : Step) (action : Action σ α) : Action σ α := fun workspace =>
  match action workspace with
  | (result, workspace) => (blame step result, workspace)

def files : Action σ FileSystem := fun workspace => (.ok workspace.files, workspace)

def note (events : List Event) : Action σ Unit := fun workspace =>
  (.ok (), { workspace with journal := workspace.journal ++ events })

/-- Notes the warnings of an attempt and takes its result. -/
def ofAttempt (attempt : Attempt α) : Action σ α := do
  note (attempt.warnings.map Event.warned)
  ofExcept attempt.result

def load (path : Path) : Action σ SourceUnit := do
  ofExcept (SourceUnit.load (← files) path)

def writeArtifact (path : Path) (text : Text) : Action σ Unit := fun workspace =>
  match workspace.files.writeArtifact path text with
  | (.ok (), files) =>
    (.ok (), { workspace with files, journal := workspace.journal ++ [.wrote path text] })
  | (.error fault, files) => (.error fault, { workspace with files })

def invoke (runner : Runner σ) (invocation : Invocation) : Action σ CommandOutput :=
  fun workspace =>
    match runner invocation workspace.agent workspace.files with
    | (result, agent, files) =>
      (result, ⟨files, agent, workspace.journal ++ [.invoked invocation]⟩)

/-- Asks the runner for a command that has to succeed. -/
def execute (runner : Runner σ) (invocation : Invocation) : Action σ CommandOutput := do
  let output ← invoke runner invocation
  ofExcept (output.requireSuccess invocation)

end Action

end ParserRefresh
