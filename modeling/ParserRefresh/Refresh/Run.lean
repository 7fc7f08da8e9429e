import ParserRefresh.Flatten
import ParserRefresh.Refresh.Basic

/-! # A refresh

A refresh writes the prelude, rebuilds the generator, compiles the grammar, writes what the
compiler printed, and puts the rules found there into the development source. It stops at the
first fault, which is blamed on the step it arose in. -/

namespace ParserRefresh

structure Report where
  prelude : Option Path
  compiled : Option Path
  source : Path
  ruleLines : Nat
  /-- Whether the development source was changed. -/
  sourceChanged : Bool
  deriving DecidableEq

namespace Refresh

variable [PatternLibrary] {σ : Type}

def buildInvocation (options : Options) : Invocation :=
  ⟨options.build.program, options.build.args, options.layout.root⟩

def compileInvocation (options : Options) : Invocation :=
  ⟨options.compiler.program,
    options.compiler.args ++ [options.grammarFlag, options.layout.grammarPath.text],
    options.layout.root⟩

def buildPrelude (options : Options) : Action σ Text := do
  let unit ← Action.load options.layout.sourcePath
  let pass ← Action.ofExcept (prelude (← Action.files) unit.path options.prelude)
  Action.ofAttempt (pass (Text.trim unit.text))

/-- Puts a block of rules into the development source, which is written only if it changes. -/
def spliceBlock (options : Options) (block : RuleBlock) : Action σ Report := do
  let source := options.layout.sourcePath
  let original ← Action.load source
  let spliced ← Action.ofExcept (Rules.replace options.prelude.markers block original.text)
  let changed := spliced != original.text
  if changed then Action.writeArtifact source spliced
  return ⟨none, none, source, block.lineCount, changed⟩

/-- Puts the rules found in the compiler's output into the development source. -/
def splice (options : Options) (compiled : Text) : Action σ Report := do
  let block ← Action.ofExcept (Rules.extract options.extract compiled)
  spliceBlock options block

def run (options : Options) (runner : Runner σ) : Action σ Report := do
  let layout := options.layout
  let text ← (buildPrelude options).during .buildPrelude
  (Action.writeArtifact layout.preludePath text).during .writePrelude
  let _ ← (Action.execute runner (buildInvocation options)).during .rebuild
  let output ← (Action.execute runner (compileInvocation options)).during .compile
  (Action.writeArtifact layout.compiledPath output.stdout).during .writeCompiled
  let report ← (splice options output.stdout).during .splice
  return { report with prelude := some layout.preludePath, compiled := some layout.compiledPath }

end Refresh

end ParserRefresh
