import ParserRefresh.Path

/-! # Faults

What goes wrong has a cause, which is blamed on the step of a refresh that it arose in. Blame is
laid once: a fault that is blamed on a step stays blamed on it. A crash is not like this. It ends
the program where it happens, without a cause, and nobody is blamed for it. -/

namespace ParserRefresh

/-- The steps of a refresh, in the order in which they are taken. -/
inductive Step where
  | buildPrelude
  | writePrelude
  | rebuild
  | compile
  | writeCompiled
  | splice
  deriving DecidableEq

def Step.name : Step → Text
  | .buildPrelude => "build-prelude".toList
  | .writePrelude => "write-prelude".toList
  | .rebuild => "rebuild".toList
  | .compile => "compile".toList
  | .writeCompiled => "write-compiled".toList
  | .splice => "splice".toList

/-- What can go wrong. -/
inductive Cause where
  /-- No file holds the module that a declaration names. -/
  | unresolvedModule (name : Text) (declaredIn : Path) (candidates : List Path)
  /-- A module declares one of the files that it is declared by. -/
  | moduleCycle (chain : List Path)
  /-- A line that opens or closes a region is missing. -/
  | missingMarker (marker context : Text)
  /-- A command could not be run or reported failure. -/
  | failedCommand (command : Text) (status : Option Int) (diagnostics : Text)
  /-- Program output holds no line that opens the rules. -/
  | noRules (sentinel : Text)
  /-- A search pattern is refused by the library that is to build it. -/
  | rejectedPattern (pattern message : Text)
  /-- A file could not be read or written. -/
  | file (path : Path) (message : Text)
  deriving DecidableEq

/-- Why there is no value: something failed, or the program crashed. -/
inductive Fault where
  | failed (cause : Cause) (step : Option Step)
  | crashed
  deriving DecidableEq

instance : Coe Cause Fault := ⟨fun cause => .failed cause none⟩

namespace Cause

def listing (between : Text) (paths : List Path) : Text :=
  between.intercalate (paths.map Path.text)

/-- The output of a failed command, on lines of its own unless it is blank. -/
def appendix (diagnostics : Text) : Text :=
  if Text.isBlank diagnostics then [] else ":\n".toList ++ Text.trimEnd diagnostics

def message : Cause → Text
  | .unresolvedModule name declaredIn candidates =>
    "Module '".toList ++ name ++ "' declared in ".toList ++ declaredIn.text ++
      " not found (tried ".toList ++ listing ", ".toList candidates ++ [')']
  | .moduleCycle chain => "Cyclic module declarations: ".toList ++ listing " -> ".toList chain
  | .missingMarker marker context =>
    "Marker '".toList ++ marker ++ "' not found: ".toList ++ context
  | .failedCommand command status diagnostics =>
    let ending := match status with
      | some code => "` exited with status ".toList ++ (toString code).toList
      | none => "` did not complete".toList
    "Command `".toList ++ command ++ ending ++ appendix diagnostics
  | .noRules sentinel =>
    "Compiler output has no line starting with '".toList ++ sentinel ++ ['\'']
  | .rejectedPattern pattern reason =>
    "Invalid pattern '".toList ++ pattern ++ "': ".toList ++ reason
  | .file path reason => path.text ++ ": ".toList ++ reason

end Cause

namespace Fault

/-- The cause of a fault; a crash has none. -/
def cause? : Fault → Option Cause
  | .failed cause _ => some cause
  | .crashed => none

def step? : Fault → Option Step
  | .failed _ step => step
  | .crashed => none

/-- Blames a fault on a step, unless it is blamed on one already. A crash is not caught. -/
def inStep (step : Step) : Fault → Fault
  | .failed cause blamed => .failed cause (some (blamed.getD step))
  | .crashed => .crashed

@[simp]
theorem inStep_inStep (fault : Fault) (first second : Step) :
    (fault.inStep first).inStep second = fault.inStep first := by
  cases fault <;> rfl

@[simp]
theorem cause?_inStep (fault : Fault) (step : Step) :
    (fault.inStep step).cause? = fault.cause? := by
  cases fault <;> rfl

def message? : Fault → Option Text
  | .failed cause none => some cause.message
  | .failed cause (some step) =>
    some ("Stage '".toList ++ step.name ++ "' failed: ".toList ++ cause.message)
  | .crashed => none

end Fault

/-- Blames what goes wrong in `attempt` on a step. -/
def blame {α : Type} (step : Step) (attempt : Except Fault α) : Except Fault α :=
  attempt.mapError (Fault.inStep step)

end ParserRefresh
