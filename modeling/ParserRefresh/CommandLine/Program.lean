import ParserRefresh.CommandLine.Arguments
import ParserRefresh.CommandLine.Report
import ParserRefresh.Settings.Loader

/-! # The program

A run reads its arguments, loads the configuration of the project and carries out one task: it
makes the prelude, refreshes the project, or splices the rules of earlier compiler output. It ends
with a status and with what it prints. -/

namespace ParserRefresh.Program

structure Exit where
  status : Nat
  stdout : Text
  stderr : Text
  deriving DecidableEq

/-- What keeps a run from its task. -/
inductive Obstacle where
  /-- A single setting has no key. -/
  | noKey (setting : Text)
  | settings (fault : SettingsFault)
  | failed (fault : Fault)
  deriving DecidableEq

def Obstacle.message? : Obstacle → Option Text
  | .noKey setting =>
    some ("Invalid --set '".toList ++ setting ++ "': expected KEY=VALUE".toList)
  | .settings fault => fault.message?.map ("Invalid configuration: ".toList ++ ·)
  | .failed fault => fault.message?

/-- The key and the value of a single setting, which has an equals sign between them. -/
def splitSetting (setting : Text) : Except Obstacle (Text × Text) :=
  let key := setting.takeWhile (· != '=')
  match setting.drop key.length with
  | [] => .error (.noKey setting)
  | _ :: value =>
    if Text.isBlank key then .error (.noKey setting) else .ok (Text.trim key, value)

section

variable {library : SettingsLibrary}

def addSetting (loader : Loader library) (setting : Text) : Except Obstacle (Loader library) := do
  let (key, value) ← splitSetting setting
  (loader.setOverride key (.ofText value)).mapError Obstacle.settings

/-- The loader that has been asked for the files of a run: that of the project, and the one that the
run is told to use. -/
def fileLoader (arguments : Arguments) : Loader library :=
  let loader := Loader.new.withProject arguments.root
  match arguments.config with
  | none => loader
  | some path => loader.withFile path

def loadConfiguration (library : SettingsLibrary) (files : FileSystem) (arguments : Arguments) :
    Except Obstacle Configuration := do
  let loader : Loader library ← arguments.settings.foldlM addSetting (fileLoader arguments)
  (loader.build files).mapError Obstacle.settings

end

variable [PatternLibrary] {σ : Type}

def preludeTask (options : Options) : Option Path → Action σ Text
  | none => (Refresh.buildPrelude options).during .buildPrelude
  | some output => do
    let text ← (Refresh.buildPrelude options).during .buildPrelude
    (Action.writeArtifact output text).during .writePrelude
    return "Wrote prelude to ".toList ++ output.text ++ ['\n']

def spliceTask (options : Options) (compiled : Path) : Action σ Report :=
  Action.during .splice do
    let unit ← Action.load compiled
    Refresh.splice options unit.text

/-- Carries out the task of a run and returns what it prints. -/
def perform (options : Options) (runner : Runner σ) (arguments : Arguments) : Action σ Text := do
  let shown (report : Report) : Text := if arguments.json then report.json else report.summary
  match arguments.task with
  | .prelude output => preludeTask options output
  | .run => return shown (← Refresh.run options runner)
  | .splice compiled => return shown (← spliceTask options compiled)

/-- How a run ends at an obstacle. What is said of a crash is not said by the program. -/
def stopped (obstacle : Obstacle) : Exit :=
  match obstacle.message? with
  | some message => ⟨1, [], "error: ".toList ++ message ++ ['\n']⟩
  | none => ⟨101, [], []⟩

def usage : Text :=
  ("Usage: bootpeg [--root <dir>] [--config <file>] [--set <key=value>]... [--json] " ++
    "(prelude [--output <file>] | run | splice <compiled>)\n").toList

def run (library : SettingsLibrary) (runner : Runner σ) (words : List Text)
    (workspace : Workspace σ) : Exit × Workspace σ :=
  match Arguments.parse words with
  | .error .usage => (⟨2, [], usage⟩, workspace)
  | .error .help => (⟨0, usage, []⟩, workspace)
  | .error .version => (⟨0, "bootpeg 0.1.0\n".toList, []⟩, workspace)
  | .ok arguments =>
    match loadConfiguration library workspace.files arguments with
    | .error obstacle => (stopped obstacle, workspace)
    | .ok configuration =>
      match perform (configuration.options arguments.root) runner arguments workspace with
      | (.ok shown, workspace) => (⟨0, shown, []⟩, workspace)
      | (.error fault, workspace) => (stopped (.failed fault), workspace)

end ParserRefresh.Program
