import ParserRefresh.Modules.Resolve
import ParserRefresh.Proofs.Outcomes
import ParserRefresh.Proofs.SameLines

/-! # Trees of files with the same lines

Two trees of files are the same up to the ends of lines when the same locations are taken, by
entries of the same kind, and files that lie at the same location hold texts with the same lines.
Every path then leads to the same place in both, so modules are found in the same files and reading
a file fails in the same way. -/

namespace ParserRefresh

/-- Contents that are no text or texts with the same lines. -/
inductive Contents.Same : Contents → Contents → Prop where
  | text {left right : Text} (same : Text.SameLines left right) :
    Contents.Same (.text left) (.text right)
  | binary (left right : List UInt8) : Contents.Same (.binary left) (.binary right)

inductive Entry.Same : Entry → Entry → Prop where
  | file {left right : Contents} (same : left.Same right) (executable : Bool) :
    Entry.Same (.file left executable) (.file right executable)
  | directory : Entry.Same .directory .directory
  | link (target : Path) : Entry.Same (.link target) (.link target)

structure FileSystem.Same (left right : FileSystem) : Prop where
  workingDirectory : left.workingDirectory = right.workingDirectory
  find? : ∀ location, Option.Rel Entry.Same (left.find? location) (right.find? location)

inductive Place.Same : Place → Place → Prop where
  | present (location : Location) {left right : Entry} (same : left.Same right) :
    Place.Same (.present location left) (.present location right)
  | vacant (location : Location) : Place.Same (.vacant location) (.vacant location)

namespace FileSystem

variable {left right : FileSystem}

/-- Trees that list entries at the same locations in the same order are the same when the entries
at each location are. -/
theorem Same.of_entries {entries others : List (Location × Entry)} (workingDirectory : Location)
    (same : List.Forall₂ (fun entry other => entry.1 = other.1 ∧ entry.2.Same other.2) entries
      others) : Same ⟨entries, workingDirectory⟩ ⟨others, workingDirectory⟩ := by
  refine ⟨rfl, fun location => ?_⟩
  unfold FileSystem.find?
  split
  · exact .some .directory
  · induction same with
    | nil => exact .none
    | @cons entry other entries others first _ ih =>
      obtain ⟨place, entry⟩ := entry
      obtain ⟨_, other⟩ := other
      obtain ⟨rfl, kinds⟩ := first
      dsimp only at ih ⊢
      rw [List.lookup_cons, List.lookup_cons]
      split
      · exact .some kinds
      · exact ih

theorem walk_nil (files : FileSystem) (goal : Goal) (links : Nat) (here : Location) :
    files.walk goal links here [] =
      match files.find? here with
      | some entry => .ok (.present here entry)
      | none => .error .noEntry :=
  FileSystem.walk.eq_def files goal links here []

theorem walk_cons (files : FileSystem) (goal : Goal) (links : Nat) (here : Location) (part : Text)
    (rest : List Text) :
    files.walk goal links here (part :: rest) =
      match files.find? here with
      | some .directory =>
        if Path.isIdle part then files.walk goal links here rest
        else if part = ['.', '.'] then files.walk goal links here.dropLast rest
        else if nameLimit < Text.utf8Size part then .error .nameTooLong
        else if goal = .create ∧ rest.all List.isEmpty ∧ rest ≠ [] then .error .isDirectory
        else
          match files.find? (here ++ [part]) with
          | none =>
            if rest.all List.isEmpty then .ok (.vacant (here ++ [part])) else .error .noEntry
          | some (.link target) =>
            if goal = .name ∧ rest = [] then .ok (.present (here ++ [part]) (.link target))
            else
              match links with
              | 0 => .error .tooManyLinks
              | links + 1 =>
                files.walk goal links (if target.isAbsolute then [] else here)
                  (Text.split '/' target.text ++ rest)
          | some _ => files.walk goal links (here ++ [part]) rest
      | _ => .error .notDirectory := by
  rw [FileSystem.walk.eq_def]
  dsimp only
  generalize files.find? (here ++ [part]) = next
  rcases next with _ | _ | _ | _ <;> rfl

/-- Following the parts of a path leads to the same place in both trees. -/
theorem Same.walk (same : left.Same right) (goal : Goal) (links : Nat) (here : Location)
    (parts : List Text) :
    SameOutcome Place.Same (left.walk goal links here parts)
      (right.walk goal links here parts) := by
  have found := same.find? here
  match parts with
  | [] =>
    rw [walk_nil, walk_nil]
    generalize left.find? here = entry at found ⊢
    generalize right.find? here = other at found ⊢
    cases found with
    | none => exact .error _
    | some entries => exact .ok (.present here entries)
  | part :: rest =>
    have below := same.find? (here ++ [part])
    rw [walk_cons, walk_cons]
    generalize left.find? here = entry at found ⊢
    generalize right.find? here = other at found ⊢
    generalize left.find? (here ++ [part]) = next at below ⊢
    generalize right.find? (here ++ [part]) = later at below ⊢
    cases found with
    | none => exact .error _
    | some entries =>
      cases entries with
      | file => exact .error _
      | link => exact .error _
      | directory =>
        dsimp only
        split
        · exact Same.walk same goal links here rest
        split
        · exact Same.walk same goal links here.dropLast rest
        split
        · exact .error _
        split
        · exact .error _
        cases below with
        | none =>
          dsimp only
          split
          · exact .ok (.vacant _)
          · exact .error _
        | some entries =>
          cases entries with
          | file => exact Same.walk same goal links (here ++ [part]) rest
          | directory => exact Same.walk same goal links (here ++ [part]) rest
          | link target =>
            dsimp only
            split
            · exact .ok (.present _ (.link target))
            · cases links with
              | zero => exact .error _
              | succ links => exact Same.walk same goal links _ _
termination_by (links, parts.length)

theorem Same.locate (same : left.Same right) (goal : Goal) (path : Path) :
    SameOutcome Place.Same (left.locate goal path) (right.locate goal path) := by
  unfold FileSystem.locate
  rw [same.workingDirectory]
  split
  · exact .error _
  split
  · exact .error _
  split
  · exact .error _
  · exact same.walk _ _ _ _

/-- A path names entries of one location that differ in the contents of a file at most, or nothing
in both trees. -/
theorem Same.resolve (same : left.Same right) (path : Path) :
    SameOutcome (fun found other => found.1 = other.1 ∧ found.2.Same other.2)
      (left.resolve path) (right.resolve path) := by
  have located := same.locate .use path
  unfold FileSystem.resolve
  generalize left.locate .use path = place at located ⊢
  generalize right.locate .use path = other at located ⊢
  cases located with
  | error refusal => exact .error refusal
  | ok places =>
    cases places with
    | present location entries => exact .ok ⟨rfl, entries⟩
    | vacant location => exact .error _

theorem Same.isFile (same : left.Same right) (path : Path) :
    left.isFile path = right.isFile path := by
  have resolved := same.resolve path
  unfold FileSystem.isFile
  generalize left.resolve path = found at resolved ⊢
  generalize right.resolve path = other at resolved ⊢
  cases resolved with
  | error => rfl
  | @ok found other entries =>
    obtain ⟨location, entry⟩ := found
    obtain ⟨place, twin⟩ := other
    obtain ⟨-, entries : entry.Same twin⟩ := entries
    cases entries <;> rfl

theorem Same.identity (same : left.Same right) (path : Path) :
    left.identity path = right.identity path := by
  have resolved := same.resolve path
  unfold FileSystem.identity FileSystem.canonical?
  generalize left.resolve path = found at resolved ⊢
  generalize right.resolve path = other at resolved ⊢
  cases resolved with
  | error => rfl
  | ok entries =>
    obtain ⟨location, -⟩ := entries
    dsimp only
    rw [location]

/-- Reading a file gives texts with the same lines, or fails in the same way. -/
theorem Same.readText (same : left.Same right) (path : Path) :
    SameOutcome (fun found other => found.1 = other.1 ∧ Text.SameLines found.2 other.2)
      (left.readText path) (right.readText path) := by
  have resolved := same.resolve path
  unfold FileSystem.readText FileSystem.readContents
  generalize left.resolve path = found at resolved ⊢
  generalize right.resolve path = other at resolved ⊢
  cases resolved with
  | error refusal => exact .error refusal
  | @ok found other entries =>
    obtain ⟨location, entry⟩ := found
    obtain ⟨place, twin⟩ := other
    obtain ⟨locations, entries : entry.Same twin⟩ := entries
    cases entries with
    | directory => exact .error _
    | link => exact .error _
    | file contents executable =>
      cases contents with
      | text lines => exact .ok ⟨locations, lines⟩
      | binary => exact .error _

theorem Same.readText_eq_ok (same : left.Same right) {path : Path} {location : Location}
    {text : Text} (read : left.readText path = .ok (location, text)) :
    ∃ twin, right.readText path = .ok (location, twin) ∧ Text.SameLines text twin := by
  have outcome := same.readText path
  rw [read] at outcome
  generalize right.readText path = other at outcome ⊢
  cases outcome with
  | @ok _ found parts =>
    obtain ⟨place, twin⟩ := found
    obtain ⟨rfl, lines⟩ := parts
    exact ⟨twin, rfl, lines⟩

theorem Same.readText_eq_error (same : left.Same right) {path : Path} {refusal : Refusal}
    (unread : left.readText path = .error refusal) : right.readText path = .error refusal := by
  have outcome := same.readText path
  rw [unread] at outcome
  generalize right.readText path = other at outcome ⊢
  cases outcome
  rfl

end FileSystem

/-- A module is found in the same file, or in none with the same fault. -/
theorem FileSystem.Same.resolveModule {left right : FileSystem} (same : left.Same right)
    (directory : Path) (name : Text) (declaredIn : Path) :
    Modules.resolve left directory name declaredIn =
      Modules.resolve right directory name declaredIn := by
  have files : left.isFile = right.isFile := funext same.isFile
  rw [Modules.resolve, Modules.resolve, files]

end ParserRefresh
