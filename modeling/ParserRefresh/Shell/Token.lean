import ParserRefresh.Shell.Syntax

/-! # Tokens of a script

A script is read character by character. The reader remembers whether it stands between quotes,
in the name of a parameter or in a script inside the script, and collects the pieces of the word
that it is in. -/

namespace ParserRefresh.Shell

inductive Token where
  | word (word : Word)
  /-- A sign that separates or encloses commands. -/
  | sign (symbol : Text)
  /-- A sign that redirects a stream. -/
  | arrow (stream : Option Nat) (symbol : Text)
  deriving DecidableEq

structure Placed where
  line : Nat
  token : Token
  deriving DecidableEq

namespace Scan

inductive Mode where
  | outside
  | comment
  | single
  | double
  /-- After a backslash. -/
  | escape (quoted : Bool)
  /-- After a dollar sign. -/
  | dollar (quoted : Bool)
  | name (quoted braced : Bool)
  /-- In a script inside the script, with the number of parentheses that are open there. -/
  | inner (quoted : Bool) (depth : Nat)
  deriving DecidableEq

structure State where
  line : Nat := 1
  mode : Mode := .outside
  /-- The characters of the piece that is being read. -/
  text : Text := []
  /-- The pieces of the word that is being read, if there is one. -/
  word : Option Word := none
  /-- Whether the last character was a sign that the next one may go on. -/
  extendable : Bool := false
  /-- The tokens so far, the last one first. -/
  tokens : List Placed := []

def State.addPiece (state : State) (piece : Piece) : State :=
  { state with word := some (state.word.getD [] ++ [piece]), text := [] }

/-- Ends a plain piece, unless it is empty. -/
def State.endPiece (state : State) (quoted : Bool) : State :=
  if state.text.isEmpty then state else state.addPiece (.plain state.text quoted)

def State.keep (state : State) (c : Char) : State := { state with text := state.text ++ [c] }

def State.addToken (state : State) (token : Token) : State :=
  { state with tokens := ⟨state.line, token⟩ :: state.tokens }

def State.endWord (state : State) : State :=
  let state := state.endPiece false
  match state.word with
  | none => state
  | some word => { state.addToken (.word word) with word := none }

/-- The mode in which quoted or unquoted text is read. -/
def Mode.text (quoted : Bool) : Mode := if quoted then .double else .outside

/-- The number in front of an arrow, when the word before it is one digit. -/
def State.stream? (state : State) : Option Nat :=
  match state.word, state.text with
  | none, [c] => if c.isDigit then some (c.toNat - '0'.toNat) else none
  | _, _ => none

def sign (state : State) (c : Char) : State :=
  let last := if state.extendable then state.tokens.head?.map Placed.token else none
  let merged := match last with
    | some (.sign [before]) =>
      if before = c ∧ (c = '&' ∨ c = '|') then some (Token.sign [c, c]) else none
    | some (.arrow stream [before]) =>
      if (before = '>' ∧ (c = '>' ∨ c = '&')) ∨ (before = '<' ∧ c = '&') then
        some (Token.arrow stream [before, c])
      else none
    | _ => none
  match merged with
  | some token => { state with tokens := ⟨state.line, token⟩ :: state.tokens.tail, extendable := false }
  | none =>
    if c = '<' ∨ c = '>' then
      match state.stream? with
      | some stream => { { state with text := [] }.addToken (.arrow (some stream) [c]) with extendable := true }
      | none => { state.endWord.addToken (.arrow none [c]) with extendable := true }
    else { state.endWord.addToken (.sign [c]) with extendable := true }

def outside (state : State) (c : Char) : State :=
  if c ∈ [';', '&', '|', '(', ')', '<', '>'] then sign state c
  else
    let state := { state with extendable := false }
    match c with
    | ' ' | '\t' => state.endWord
    | '\n' =>
      let state := state.endWord.addToken (.sign ['\n'])
      { state with line := state.line + 1 }
    | '\'' => { state.endPiece false with mode := .single }
    | '"' => { state.endPiece false with mode := .double, word := some (state.endPiece false |>.word.getD []) }
    | '\\' => { state with mode := .escape false }
    | '$' => { state.endPiece false with mode := .dollar false }
    | '#' =>
      if state.text.isEmpty ∧ state.word = none then { state with mode := .comment } else state.keep c
    | c => state.keep c

def double (state : State) (c : Char) : State :=
  match c with
  | '"' => { state.addPiece (.plain state.text true) with mode := .outside }
  | '\\' => { state with mode := .escape true }
  | '$' => { state.endPiece true with mode := .dollar true }
  | '\n' => { state.keep c with line := state.line + 1 }
  | c => state.keep c

def textual (state : State) (quoted : Bool) (c : Char) : State :=
  let state := { state with mode := .text quoted }
  if quoted then double state c else outside state c

def isNameStart (c : Char) : Bool := c.isAlpha || c == '_'

def escape (state : State) (quoted : Bool) (c : Char) : State :=
  let state := { state with mode := .text quoted }
  if c = '\n' then { state with line := state.line + 1 }
  else if !quoted then (state.endPiece false).addPiece (.plain [c] true)
  else if c ∈ ['$', '"', '\\', '\x60'] then state.keep c
  else (state.keep '\\').keep c

def dollar (state : State) (quoted : Bool) (c : Char) : State :=
  if c = '\x7b' then { state with mode := .name quoted true }
  else if c = '(' then { state with mode := .inner quoted 0 }
  else if isNameStart c then { state.keep c with mode := .name quoted false }
  else if c.isDigit ∨ c ∈ ['@', '*', '#', '?', '$', '!', '-'] then
    { state.addPiece (.parameter [c] quoted) with mode := .text quoted }
  else textual (state.keep '$') quoted c

def name (state : State) (quoted braced : Bool) (c : Char) : State :=
  if braced then
    if c = '\x7d' then { state.addPiece (.parameter state.text quoted) with mode := .text quoted }
    else state.keep c
  else if isNameStart c ∨ c.isDigit then state.keep c
  else textual (state.addPiece (.parameter state.text quoted)) quoted c

def inner (state : State) (quoted : Bool) (depth : Nat) (c : Char) : State :=
  let state := if c = '\n' then { state with line := state.line + 1 } else state
  match c, depth with
  | ')', 0 => { state.addPiece (.printed state.text quoted) with mode := .text quoted }
  | ')', depth + 1 => { state.keep c with mode := .inner quoted depth }
  | '(', depth => { state.keep c with mode := .inner quoted (depth + 1) }
  | c, _ => state.keep c

def step (state : State) (c : Char) : State :=
  match state.mode with
  | .outside => outside state c
  | .comment => if c = '\n' then outside { state with mode := .outside } c else state
  | .single =>
    if c = '\'' then { state.addPiece (.plain state.text true) with mode := .outside }
    else { state.keep c with line := if c = '\n' then state.line + 1 else state.line }
  | .double => double state c
  | .escape quoted => escape state quoted c
  | .dollar quoted => dollar state quoted c
  | .name quoted braced => name state quoted braced c
  | .inner quoted depth => inner state quoted depth c

def finish (state : State) : Except SyntaxFault State :=
  match state.mode with
  | .outside | .comment => .ok state.endWord
  | .escape false => .ok (state.keep '\\').endWord
  | .dollar false => .ok (state.keep '$').endWord
  | .name false false => .ok (state.addPiece (.parameter state.text false)).endWord
  | _ => .error (.unterminatedQuote state.line)

end Scan

/-- The tokens of a script. What cannot be read ends them. -/
def tokens (script : Text) : List Placed × Option SyntaxFault :=
  match Scan.finish (script.foldl Scan.step {}) with
  | .ok state => (state.tokens.reverse, none)
  | .error fault => ((script.foldl Scan.step {}).tokens.reverse, some fault)

end ParserRefresh.Shell
