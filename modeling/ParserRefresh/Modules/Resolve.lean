import ParserRefresh.Fault
import ParserRefresh.Files.Walk

/-! # The file of a declared module

A module named `m` lies in `m/mod.rs` or in `m.rs`, looked for in this order in the directory of
the file that declares it. -/

namespace ParserRefresh

/-- A source text and the path it was read from. -/
structure SourceUnit where
  path : Path
  text : Text
  deriving DecidableEq

namespace Modules

/-- Where a module may lie. -/
def candidates (directory : Path) (name : Text) : List Path :=
  [(directory.join ⟨name⟩).join ⟨"mod.rs".toList⟩, directory.join ⟨name ++ ".rs".toList⟩]

def resolve (files : FileSystem) (directory : Path) (name : Text) (declaredIn : Path) :
    Except Fault Path :=
  match (candidates directory name).find? files.isFile with
  | some path => .ok path
  | none => .error (Cause.unresolvedModule name declaredIn (candidates directory name))

end Modules

/-- The path by which a file is told from others: the canonical one, or the path as written when
it names nothing. -/
def FileSystem.identity (files : FileSystem) (path : Path) : Path :=
  (files.canonical? path).getD path

def SourceUnit.load (files : FileSystem) (path : Path) : Except Fault SourceUnit :=
  match files.readText path with
  | .ok (_, text) => .ok ⟨path, text⟩
  | .error refusal => .error (Cause.file path refusal.message)

def SourceUnit.directory (unit : SourceUnit) : Path := unit.path.directory

end ParserRefresh
