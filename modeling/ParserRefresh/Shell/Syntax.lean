import ParserRefresh.Text.Basic

/-! # Shell scripts

A script is a tree of commands. The words of a command are kept as pieces, because what a
parameter or a command stands for is put in only when the command is run. -/

namespace ParserRefresh.Shell

/-- A part of a word. What is quoted is not cut at blanks. -/
inductive Piece where
  | plain (text : Text) (quoted : Bool)
  /-- The value of a parameter. -/
  | parameter (name : Text) (quoted : Bool)
  /-- What a script prints. -/
  | printed (script : Text) (quoted : Bool)
  deriving DecidableEq

abbrev Word := List Piece

inductive Target where
  | source (name : Word)
  | sink (name : Word) (append : Bool)
  | stream (number : Word)
  deriving DecidableEq

/-- Leads the stream with a number somewhere else. -/
structure Redirection where
  stream : Nat
  target : Target
  deriving DecidableEq

/-- A command with its words, and the line it stands on. -/
structure Simple where
  line : Nat
  assignments : List (Text × Word) := []
  words : List Word := []
  redirections : List Redirection := []
  deriving DecidableEq

inductive Script where
  | skip
  | simple (command : Simple)
  /-- One after the other. -/
  | both (first second : Script)
  /-- The second only if the first succeeds. -/
  | andThen (first second : Script)
  /-- The second only if the first fails. -/
  | orElse (first second : Script)
  | negated (body : Script)
  /-- The second reads what the first prints. -/
  | piped (first second : Script)
  | redirected (line : Nat) (body : Script) (redirections : List Redirection)
  /-- A body whose variables and directory are its own. -/
  | enclosed (body : Script)
  | branch (condition success failure : Script)
  | forEach (name : Text) (words : List Word) (body : Script)
  /-- A body that is repeated as long as the condition succeeds, or fails. -/
  | loop (goal : Bool) (condition body : Script)
  deriving DecidableEq

inductive SyntaxFault where
  | unterminatedQuote (line : Nat)
  | unexpected (line : Nat) (found : Text) (expected : Option Text)
  deriving DecidableEq

def SyntaxFault.line : SyntaxFault → Nat
  | .unterminatedQuote line => line
  | .unexpected line _ _ => line

def SyntaxFault.message : SyntaxFault → Text
  | .unterminatedQuote _ => "Syntax error: Unterminated quoted string".toList
  | .unexpected _ found expected =>
    let hint := match expected with
      | some word => " (expecting \"".toList ++ word ++ "\")".toList
      | none => []
    "Syntax error: ".toList ++ found ++ " unexpected".toList ++ hint

end ParserRefresh.Shell
