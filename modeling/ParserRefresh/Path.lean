import ParserRefresh.Text.Lines

/-! # Written paths

A path is kept as it was written: joining and taking the directory are operations on the text,
and no file is looked at. Two paths are the same when their components agree, which forgets
doubled separators, a separator at the end and every `.` but a leading one. -/

namespace ParserRefresh

/-- A file path as written, with `/` between its parts. -/
structure Path where
  text : Text
  deriving DecidableEq, Inhabited

/-- What a path is read as, part by part. -/
inductive Component where
  | root
  | here
  | up
  | name (part : Text)
  deriving DecidableEq

namespace Path

def isAbsolute (path : Path) : Bool := path.text.head? == some '/'

/-- The path as a head (`/`, a leading `.`, or nothing) and the body after it. -/
def headAndBody : Text → Text × Text
  | '/' :: body => (['/'], body)
  | ['.'] => (['.'], [])
  | '.' :: '/' :: body => (['.'], '/' :: body)
  | body => ([], body)

/-- A part that names nothing: an empty one or a `.`. -/
def isIdle (part : Text) : Bool := part == [] || part == ['.']

def ofPart (part : Text) : Component := if part = ['.', '.'] then .up else .name part

def components (path : Path) : List Component :=
  let (head, body) := headAndBody path.text
  let start := match head with
    | ['/'] => [Component.root]
    | ['.'] => [Component.here]
    | _ => []
  start ++ ((Text.split '/' body).filter (fun part => !isIdle part)).map ofPart

/-- Whether two paths have the same components. -/
def same (left right : Path) : Bool := left.components == right.components

def dropIdleEnd (parts : List Text) : List Text := (parts.reverse.dropWhile isIdle).reverse

/-- The path without its last component, or nothing for the root and the empty path. -/
def parent? (path : Path) : Option Path :=
  let (head, body) := headAndBody path.text
  match (dropIdleEnd (Text.split '/' body)).reverse with
  | [] => if head = ['.'] then some ⟨[]⟩ else none
  | _ :: earlier => some ⟨head ++ Text.join '/' (dropIdleEnd earlier.reverse)⟩

/-- The directory part of a path; a path without one has the empty directory. -/
def directory (path : Path) : Path := path.parent?.getD ⟨[]⟩

/-- Reads `tail` from the directory `base`: an absolute tail stands for itself. -/
def join (base tail : Path) : Path :=
  if tail.isAbsolute then tail
  else if base.text.isEmpty || base.text.getLast? == some '/' then ⟨base.text ++ tail.text⟩
  else ⟨base.text ++ '/' :: tail.text⟩

def fileName? (path : Path) : Option Text :=
  match path.components.getLast? with
  | some (.name part) => some part
  | _ => none

end Path

end ParserRefresh
