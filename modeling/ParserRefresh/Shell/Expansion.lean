import ParserRefresh.Shell.Process
import ParserRefresh.Shell.Syntax

/-! # Expansion

The words of a command are expanded to fields. A parameter or a script that is not quoted may
stand for several fields or for none. -/

namespace ParserRefresh.Shell

namespace Process

/-- The fields of a command: those that are finished, and the one that is being put together. -/
structure Fields where
  finished : List Text := []
  current : Option Text := none

def Fields.glue (fields : Fields) (text : Text) : Fields :=
  { fields with current := some (fields.current.getD [] ++ text) }

def Fields.close (fields : Fields) : Fields :=
  match fields.current with
  | none => fields
  | some text => ⟨fields.finished ++ [text], none⟩

/-- Adds text that is cut at blanks. -/
def Fields.spread (fields : Fields) (text : Text) : Fields :=
  text.foldl (fun fields c =>
    if c = ' ' ∨ c = '\t' ∨ c = '\n' then fields.close else fields.glue [c]) fields

def Fields.add (fields : Fields) (quoted : Bool) (text : Text) : Fields :=
  if quoted then fields.glue text else fields.spread text

/-- Adds texts as fields of their own: the first and the last one touch their neighbours. -/
def Fields.addEach (fields : Fields) : List Text → Fields
  | [] => fields
  | [text] => fields.glue text
  | text :: texts => (fields.glue text).close.addEach texts

def dropLastBreaks (text : Text) : Text := (text.reverse.dropWhile (· == '\n')).reverse

def expandPiece (interpret : Interpreter) (state : Fields × Process) (piece : Piece) :
    Fields × Process :=
  let (fields, process) := state
  match piece with
  | .plain text _ => (fields.glue text, process)
  | .parameter ['@'] true => (fields.addEach process.args, process)
  | .parameter name quoted => (fields.add quoted (process.value name), process)
  | .printed script quoted =>
    let (bytes, process) := collect (aside (interpret script)) process
    (fields.add quoted (dropLastBreaks (Text.ofUtf8Lenient bytes)), process)

def expand (interpret : Interpreter) (words : List Word) (process : Process) :
    List Text × Process :=
  let (fields, process) := words.foldl (fun state word =>
    let (fields, process) := word.foldl (expandPiece interpret) state
    (fields.close, process)) ({}, process)
  (fields.finished, process)

def expandWhole (interpret : Interpreter) (word : Word) (process : Process) :
    Text × Process :=
  let whole := word.map (fun piece =>
    match piece with
    | .plain text _ => .plain text true
    | .parameter name _ => .parameter (if name = ['@'] then ['*'] else name) true
    | .printed script _ => .printed script true)
  let (fields, process) := expand interpret [whole] process
  (fields.flatten, process)

end Process

end ParserRefresh.Shell
