import ParserRefresh.Shell.Token

/-! # Reading a script from its tokens

Commands are read line by line: what stands on the lines before a fault is a script still. A
reader takes tokens from the start of those that are left. The readers of nested commands are
given the number of levels they may go down; every level takes a token or is one of few between
two tokens, so a multiple of the number of tokens is enough. -/

namespace ParserRefresh.Shell

namespace Grammar

/-- A reader of tokens. -/
abbrev Reading := StateT (List Placed) (Except SyntaxFault)

def bare? : Token → Option Text
  | .word [.plain text false] => some text
  | _ => none

def closers : List Text :=
  ["then".toList, "else".toList, "elif".toList, "fi".toList, "do".toList, "done".toList,
    "\x7d".toList]

def nameOf (token : Token) : Text :=
  match token with
  | .sign ['\n'] => "newline".toList
  | .sign symbol => '"' :: symbol ++ ['"']
  | .arrow .. => "redirection".toList
  | .word _ =>
    match bare? token with
    | some text => if closers.contains text then '"' :: text ++ ['"'] else "word".toList
    | none => "word".toList

variable {α : Type}

/-- The fault of meeting the next token. The script ends on the line `last`. -/
def unexpected (last : Nat) (expected : Option Text := none) : Reading α := do
  match ← get with
  | [] => throw (.unexpected last "end of file".toList expected)
  | first :: _ => throw (.unexpected first.line (nameOf first.token) expected)

def next? : Reading (Option Token) := return (← get).head?.map Placed.token

def nextBare? : Reading (Option Text) := return (← next?).bind bare?

def advance : Reading Unit := modify List.tail

def acceptSign (symbol : Text) : Reading Bool := do
  if (← next?) = some (.sign symbol) then advance; return true
  return false

def acceptOneOf (symbols : List Text) : Reading Bool := do
  match ← next? with
  | some (.sign symbol) =>
    if symbols.contains symbol then advance; return true
    return false
  | _ => return false

def acceptWord (word : Text) : Reading Bool := do
  if (← nextBare?) = some word then advance; return true
  return false

def expectWord (last : Nat) (word : Text) : Reading Unit := do
  unless ← acceptWord word do unexpected last (some word)

def skipBreaks : Reading Unit :=
  modify (List.dropWhile (fun placed => placed.token == .sign ['\n']))

def atEnd : Reading Bool := do
  match ← next? with
  | none => return true
  | some (.sign symbol) => return symbol == [')']
  | some token => return (bare? token).any closers.contains

def redirection (stream : Option Nat) (symbol : Text) (word : Word) : Redirection :=
  match symbol with
  | ['<'] => ⟨stream.getD 0, .source word⟩
  | ['<', '&'] => ⟨stream.getD 0, .stream word⟩
  | ['>', '&'] => ⟨stream.getD 1, .stream word⟩
  | symbol => ⟨stream.getD 1, .sink word (symbol == ['>', '>'])⟩

/-- The name and the value of a word that assigns one to the other. -/
def assignment? : Word → Option (Text × Word)
  | .plain text false :: more =>
    let name := text.takeWhile (fun c => Scan.isNameStart c || c.isDigit)
    match text.drop name.length, name with
    | '=' :: value, first :: _ =>
      if first.isDigit then none
      else some (name, if value.isEmpty then more else .plain value false :: more)
    | _, _ => none
  | _ => none

def addWord (command : Simple) (word : Word) : Simple :=
  match if command.words.isEmpty then assignment? word else none with
  | some assignment => { command with assignments := command.assignments ++ [assignment] }
  | none => { command with words := command.words ++ [word] }

def simple (last : Nat) (command : Simple) : Nat → Reading Simple
  | 0 => return command
  | count + 1 => do
    match ← next? with
    | some (.word word) => advance; simple last (addWord command word) count
    | some (.arrow stream symbol) =>
      advance
      match ← next? with
      | some (.word word) =>
        advance
        let led := command.redirections ++ [redirection stream symbol word]
        simple last { command with redirections := led } count
      | _ => unexpected last
    | _ => return command

def loopWords (last : Nat) : Nat → Reading (List Word)
  | 0 => unexpected last
  | count + 1 => do
    match ← next? with
    | some (.word word) => advance; return word :: (← loopWords last count)
    | some (.sign symbol) =>
      if symbol = ['\n'] ∨ symbol = [';'] then advance; return []
      unexpected last
    | _ => unexpected last

def loopHead (last : Nat) : Reading (Text × List Word) := do
  match ← nextBare? with
  | none => unexpected last
  | some name =>
    advance
    unless ← acceptSign [';'] do skipBreaks
    if ← acceptWord "in".toList then return (name, ← loopWords last ((← get).length + 1))
    return (name, [[.parameter ['@'] true]])

mutual

/-- Takes commands up to a sign or word that ends them. -/
def list (last : Nat) : Nat → Reading Script
  | 0 => unexpected last
  | levels + 1 => do
    skipBreaks
    if ← atEnd then return .skip
    let first ← chain last levels
    if ← acceptOneOf [[';'], ['&'], ['\n']] then
      return .both first (← list last levels)
    return first

def chain (last : Nat) : Nat → Reading Script
  | 0 => unexpected last
  | levels + 1 => do links last levels (← pipeline last levels)

def links (last : Nat) : Nat → Script → Reading Script
  | 0, _ => unexpected last
  | levels + 1, first => do
    if ← acceptSign ['&', '&'] then
      skipBreaks
      links last levels (.andThen first (← pipeline last levels))
    else if ← acceptSign ['|', '|'] then
      skipBreaks
      links last levels (.orElse first (← pipeline last levels))
    else return first

def pipeline (last : Nat) : Nat → Reading Script
  | 0 => unexpected last
  | levels + 1 => do
    if ← acceptWord ['!'] then return .negated (← pipeline last levels)
    let first ← command last levels
    if ← acceptSign ['|'] then
      skipBreaks
      return .piped first (← pipeline last levels)
    return first

def command (last : Nat) : Nat → Reading Script
  | 0 => unexpected last
  | levels + 1 => do
    let line := ((← get).head?.map Placed.line).getD last
    match ← compound last levels with
    | some body =>
      let led ← simple last ⟨line, [], [], []⟩ ((← get).length + 1)
      if led.words.isEmpty ∧ led.assignments.isEmpty then
        return if led.redirections.isEmpty then body else .redirected line body led.redirections
      unexpected last
    | none =>
      match ← next? with
      | none | some (.sign _) => unexpected last
      | _ =>
        if ← atEnd then unexpected last
        return .simple (← simple last ⟨line, [], [], []⟩ ((← get).length + 1))

/-- Takes a command that holds other commands, if one is next. -/
def compound (last : Nat) : Nat → Reading (Option Script)
  | 0 => unexpected last
  | levels + 1 => do
    if ← acceptSign ['('] then
      let body ← list last levels
      if ← acceptSign [')'] then return some (.enclosed body)
      unexpected last (some [')'])
    else if ← acceptWord ['\x7b'] then
      let body ← list last levels
      expectWord last ['\x7d']
      return some body
    else if ← acceptWord "if".toList then return some (← branch last levels)
    else if ← acceptWord "while".toList then return some (← loop last levels true)
    else if ← acceptWord "until".toList then return some (← loop last levels false)
    else if ← acceptWord "for".toList then
      let (name, words) ← loopHead last
      return some (.forEach name words (← loopBody last levels))
    else return none

def branch (last : Nat) : Nat → Reading Script
  | 0 => unexpected last
  | levels + 1 => do
    let condition ← list last levels
    expectWord last "then".toList
    let success ← list last levels
    if ← acceptWord "elif".toList then
      return .branch condition success (← branch last levels)
    let failure ← if ← acceptWord "else".toList then list last levels else pure .skip
    expectWord last "fi".toList
    return .branch condition success failure

def loop (last : Nat) : Nat → Bool → Reading Script
  | 0, _ => unexpected last
  | levels + 1, goal => do
    let condition ← list last levels
    return .loop goal condition (← loopBody last levels)

def loopBody (last : Nat) : Nat → Reading Script
  | 0 => unexpected last
  | levels + 1 => do
    skipBreaks
    expectWord last "do".toList
    let body ← list last levels
    expectWord last "done".toList
    return body

end

def line (last levels : Nat) : Nat → Reading Script
  | 0 => unexpected last
  | count + 1 => do
    let first ← chain last levels
    if ← acceptOneOf [[';'], ['&']] then
      match ← next? with
      | none | some (.sign ['\n']) => return first
      | _ => return .both first (← line last levels count)
    else
      match ← next? with
      | none | some (.sign ['\n']) => return first
      | _ => unexpected last

def lines (last levels : Nat) : Nat → List Placed → List Script × Option SyntaxFault
  | 0, _ => ([], none)
  | count + 1, tokens =>
    match tokens.dropWhile (fun placed => placed.token == .sign ['\n']) with
    | [] => ([], none)
    | tokens =>
      match (line last levels (tokens.length + 1)).run tokens with
      | .error fault => ([], some fault)
      | .ok (first, rest) =>
        let (more, fault) := lines last levels count rest
        (first :: more, fault)

end Grammar

/-- The lines of a script that can be read, and the fault that ends them. -/
def read (script : Text) : List Script × Option SyntaxFault :=
  let last := script.count '\n' + 1
  let (found, fault) := tokens script
  let whole := if fault.isNone then found
    else (found.reverse.dropWhile (fun placed => placed.token != .sign ['\n'])).reverse
  let (scripts, earlier) := Grammar.lines last (8 * (found.length + 2)) (found.length + 1) whole
  (scripts, earlier.or fault)

end ParserRefresh.Shell
