import ParserRefresh.Files.Write
import ParserRefresh.Proofs.SameTrees

/-! # What stays when files are written

Writing takes nothing away. Directories and links stay what they are and a file stays a file, so a
path, which is followed part by part, goes on leading where it led, and a file is read as before
unless it is the one that has been written. -/

namespace ParserRefresh.FileSystem

/-! ## One part of a path -/

/-- A part is looked up in the directory that has been reached: it is no idle part and no step up,
it is not too long, and no name of a new file with a separator behind it. -/
structure LooksUp (goal : Goal) (part : Text) (rest : List Text) : Prop where
  busy : ¬ Path.isIdle part = true
  down : part ≠ ['.', '.']
  short : ¬ nameLimit < Text.utf8Size part
  stays : ¬ (goal = .create ∧ rest.all List.isEmpty = true ∧ rest ≠ [])

section Step

variable {files : FileSystem} {goal : Goal} {links : Nat} {here : Location} {part : Text}
  {rest : List Text} (directory : files.find? here = some .directory)

include directory

theorem walk_idle (idle : Path.isIdle part = true) :
    files.walk goal links here (part :: rest) = files.walk goal links here rest := by
  rw [walk_cons, directory]
  exact if_pos idle

theorem walk_up : files.walk goal links here (['.', '.'] :: rest) =
    files.walk goal links here.dropLast rest := by
  rw [walk_cons, directory]
  rfl

theorem LooksUp.walk_eq (named : LooksUp goal part rest) :
    files.walk goal links here (part :: rest) =
      match files.find? (here ++ [part]) with
      | none =>
        if rest.all List.isEmpty then .ok (.vacant (here ++ [part])) else .error .noEntry
      | some (.link target) =>
        if goal = .name ∧ rest = [] then .ok (.present (here ++ [part]) (.link target))
        else
          match links with
          | 0 => .error .tooManyLinks
          | links + 1 =>
            files.walk goal links (if target.isAbsolute then [] else here)
              (Text.split '/' target.text ++ rest)
      | some _ => files.walk goal links (here ++ [part]) rest := by
  rw [walk_cons, directory]
  dsimp only
  rw [if_neg named.busy, if_neg named.down, if_neg named.short]
  exact if_neg named.stays

theorem LooksUp.walk_vacant (named : LooksUp goal part rest)
    (vacant : files.find? (here ++ [part]) = none) (last : rest.all List.isEmpty = true) :
    files.walk goal links here (part :: rest) = .ok (.vacant (here ++ [part])) := by
  rw [named.walk_eq directory, vacant]
  exact if_pos last

theorem LooksUp.walk_link (named : LooksUp goal part rest) {target : Path}
    (link : files.find? (here ++ [part]) = some (.link target))
    (other : ¬ (goal = .name ∧ rest = [])) :
    files.walk goal (links + 1) here (part :: rest) =
      files.walk goal links (if target.isAbsolute then [] else here)
        (Text.split '/' target.text ++ rest) := by
  rw [named.walk_eq directory, link]
  exact if_neg other

theorem LooksUp.walk_named (named : LooksUp .name part []) {target : Path}
    (link : files.find? (here ++ [part]) = some (.link target)) :
    files.walk .name links here [part] = .ok (.present (here ++ [part]) (.link target)) := by
  rw [named.walk_eq directory, link]
  exact if_pos ⟨rfl, rfl⟩

theorem LooksUp.walk_solid (named : LooksUp goal part rest) {entry : Entry}
    (found : files.find? (here ++ [part]) = some entry) (solid : ∀ target, entry ≠ .link target) :
    files.walk goal links here (part :: rest) = files.walk goal links (here ++ [part]) rest := by
  rw [named.walk_eq directory, found]
  cases entry with
  | link target => exact absurd rfl (solid target)
  | file => rfl
  | directory => rfl

end Step

/-! ## Putting an entry -/

theorem lookup_putEntry (location place : Location) (entry : Entry)
    (entries : List (Location × Entry)) :
    (putEntry location entry entries).lookup place =
      if place = location then some entry else entries.lookup place := by
  induction entries with
  | nil =>
    rw [putEntry, List.lookup_cons]
    split
    · next same => rw [if_pos (eq_of_beq same)]
    · next other => rw [if_neg (ne_of_beq_false other)]
  | cons head rest ih =>
    obtain ⟨held, old⟩ := head
    rw [putEntry]
    by_cases here : held = location
    · rw [if_pos here, List.lookup_cons, List.lookup_cons, here]
      split
      · next same => rw [if_pos (eq_of_beq same)]
      · next other => rw [if_neg (ne_of_beq_false other)]
    · rw [if_neg here, List.lookup_cons, List.lookup_cons, ih]
      split
      · next same => rw [if_neg (eq_of_beq same ▸ here)]
      · rfl

theorem find?_put {location : Location} (deep : location ≠ []) (files : FileSystem) (entry : Entry)
    (place : Location) :
    (files.put location entry).find? place =
      if place = location then some entry else files.find? place := by
  unfold find? put
  dsimp only
  rw [lookup_putEntry]
  by_cases root : place = []
  · rw [if_pos root, if_pos root, root, if_neg (Ne.symm deep)]
  · rw [if_neg root, if_neg root]

/-- Putting what is there already changes nothing. -/
theorem putEntry_of_lookup {location : Location} {entry : Entry}
    {entries : List (Location × Entry)} (found : entries.lookup location = some entry) :
    putEntry location entry entries = entries := by
  induction entries with
  | nil => cases found
  | cons head rest ih =>
    obtain ⟨held, old⟩ := head
    rw [List.lookup_cons] at found
    rw [putEntry]
    by_cases here : held = location
    · rw [here, beq_self_eq_true] at found
      cases found
      rw [if_pos here]
    · rw [beq_eq_false_iff_ne.mpr (Ne.symm here)] at found
      rw [if_neg here, ih found]

theorem put_of_find? {files : FileSystem} {location : Location} {entry : Entry}
    (deep : location ≠ []) (found : files.find? location = some entry) :
    files.put location entry = files := by
  rw [find?, if_neg deep] at found
  rw [put, putEntry_of_lookup found]

/-- A location below the root that holds a file, or nothing. -/
structure HoldsFileAtMost (files : FileSystem) (location : Location) : Prop where
  deep : location ≠ []
  file : ∀ entry, files.find? location = some entry →
    ∃ contents executable, entry = .file contents executable

def HoldsFile (files : FileSystem) (location : Location) : Prop :=
  ∃ contents executable, files.find? location = some (.file contents executable)

theorem HoldsFile.atMost {files : FileSystem} {location : Location}
    (holds : HoldsFile files location) : HoldsFileAtMost files location := by
  obtain ⟨contents, executable, stands⟩ := holds
  constructor
  · rintro rfl
    cases stands
  · intro entry there
    exact ⟨contents, executable, Option.some.inj (there.symm.trans stands)⟩

/-- Where a walk ends at a free name, nothing is there yet. -/
theorem find?_of_walk_vacant {files : FileSystem} {goal : Goal} {links : Nat}
    {here location : Location} {parts : List Text}
    (led : files.walk goal links here parts = .ok (.vacant location)) :
    files.find? location = none ∧ location ≠ [] := by
  fun_induction walk files goal links here parts with
  | case7 links here part rest directory busy down short next atEnd stays vacant last =>
    have same : here ++ [part] = location := Place.vacant.inj (Except.ok.inj led)
    rw [← same]
    exact ⟨vacant, by simp⟩
  | _ => grind

theorem holdsFileAtMost_of_walk_vacant {files : FileSystem} {goal : Goal} {links : Nat}
    {here location : Location} {parts : List Text}
    (led : files.walk goal links here parts = .ok (.vacant location)) :
    HoldsFileAtMost files location := by
  obtain ⟨vacant, deep⟩ := find?_of_walk_vacant led
  refine ⟨deep, fun entry there => ?_⟩
  cases vacant.symm.trans there

/-- A path that can be followed at all is followed in the same way, whatever it is wanted for, in
all file systems with the same working directory. -/
theorem exists_walk_of_locate {files : FileSystem} {goal : Goal} {path : Path} {place : Place}
    (led : files.locate goal path = .ok place) :
    ∃ here, files.walk goal linkLimit here (Text.split '/' path.text) = .ok place ∧
      ∀ (other : FileSystem) (wanted : Goal), other.workingDirectory = files.workingDirectory →
        other.locate wanted path = other.walk wanted linkLimit here (Text.split '/' path.text) := by
  unfold locate at led ⊢
  split at led
  · cases led
  split at led
  · cases led
  split at led
  · cases led
  next some clean short =>
  refine ⟨_, led, fun other wanted same => ?_⟩
  rw [if_neg some, if_neg clean, if_neg short, same]

/-! ## Keeping -/

/-- Nothing is taken away: directories and links stay what they are, files stay files, and what
does not lie at one of `places` stays as it is. -/
structure Keeps (places : List Location) (files after : FileSystem) : Prop where
  workingDirectory : after.workingDirectory = files.workingDirectory
  stays : ∀ place entry, files.find? place = some entry →
    after.find? place = some entry ∨ place ∈ places ∧ files.HoldsFile place ∧ after.HoldsFile place

namespace Keeps

variable {places : List Location} {files between after : FileSystem}

theorem refl (files : FileSystem) : Keeps [] files files :=
  ⟨rfl, fun _ _ found => .inl found⟩

theorem mono (keeps : Keeps places files after) {more : List Location} (subset : places ⊆ more) :
    Keeps more files after :=
  ⟨keeps.workingDirectory, fun place entry found =>
    (keeps.stays place entry found).imp_right (fun written => ⟨subset written.1, written.2⟩)⟩

theorem holdsFile (keeps : Keeps places files after) {location : Location}
    (file : files.HoldsFile location) : after.HoldsFile location := by
  obtain ⟨contents, executable, found⟩ := file
  rcases keeps.stays _ _ found with same | ⟨-, -, changed⟩
  · exact ⟨contents, executable, same⟩
  · exact changed

theorem trans {more : List Location} (start : Keeps places files between)
    (rest : Keeps more between after) : Keeps (places ++ more) files after := by
  refine ⟨rest.workingDirectory.trans start.workingDirectory, fun place entry found => ?_⟩
  rcases start.stays place entry found with same | ⟨early, was, now⟩
  · rcases rest.stays place entry same with still | ⟨late, ⟨contents, executable, file⟩, now⟩
    · exact .inl still
    · cases same.symm.trans file
      exact .inr ⟨List.mem_append_right _ late, ⟨contents, executable, found⟩, now⟩
  · exact .inr ⟨List.mem_append_left _ early, was, rest.holdsFile now⟩

theorem find?_of_notMem (keeps : Keeps places files after) {place : Location} {entry : Entry}
    (found : files.find? place = some entry) (apart : place ∉ places) :
    after.find? place = some entry := by
  rcases keeps.stays place entry found with same | ⟨member, -, -⟩
  · exact same
  · exact absurd member apart

/-- What is no file stays as it is, wherever it lies. -/
theorem find?_of_ne_file (keeps : Keeps places files after) {place : Location} {entry : Entry}
    (found : files.find? place = some entry)
    (other : ∀ contents executable, entry ≠ .file contents executable) :
    after.find? place = some entry := by
  rcases keeps.stays place entry found with same | ⟨-, ⟨contents, executable, file⟩, -⟩
  · exact same
  · exact absurd (Option.some.inj (found.symm.trans file)) (other contents executable)

/-- What is no link becomes none. -/
theorem exists_find?_of_ne_link (keeps : Keeps places files after) {place : Location}
    {entry : Entry} (found : files.find? place = some entry)
    (solid : ∀ target, entry ≠ .link target) :
    ∃ now, after.find? place = some now ∧ ∀ target, now ≠ .link target := by
  rcases keeps.stays place entry found with same | ⟨-, -, contents, executable, file⟩
  · exact ⟨entry, same, solid⟩
  · exact ⟨_, file, by simp⟩

/-- A path to something that is there goes on leading to the same place. -/
theorem walk (keeps : Keeps places files after) {goal : Goal} {links : Nat}
    {here location : Location} {parts : List Text} {entry : Entry}
    (led : files.walk goal links here parts = .ok (.present location entry)) :
    ∃ now, after.walk goal links here parts = .ok (.present location now) := by
  fun_induction FileSystem.walk files goal links here parts with
  | case1 links here entry found =>
    cases led
    rw [walk_nil]
    rcases keeps.stays _ _ found with same | ⟨-, -, contents, executable, file⟩
    · exact ⟨_, by rw [same]⟩
    · exact ⟨_, by rw [file]⟩
  | case3 links here part rest directory idle ih =>
    rw [walk_idle (keeps.find?_of_ne_file directory (by simp)) idle]
    exact ih led
  | case4 links here rest directory busy ih =>
    rw [walk_up (keeps.find?_of_ne_file directory (by simp))]
    exact ih led
  | case9 links here part rest directory busy down short next atEnd stays aim link named =>
    obtain ⟨rfl, rfl⟩ := named
    have same : here ++ [part] = location := (Place.present.inj (Except.ok.inj led)).1
    rw [← same]
    exact ⟨_, LooksUp.walk_named (keeps.find?_of_ne_file directory (by simp))
      ⟨busy, down, short, stays⟩ (keeps.find?_of_ne_file link (by simp))⟩
  | case11 here part rest directory busy down short next atEnd stays aim link other links ih =>
    rw [LooksUp.walk_link (keeps.find?_of_ne_file directory (by simp)) ⟨busy, down, short, stays⟩
      (keeps.find?_of_ne_file link (by simp)) other]
    exact ih led
  | case12 links here part rest directory busy down short next atEnd stays entry solid found ih =>
    obtain ⟨now, stands, stillSolid⟩ := keeps.exists_find?_of_ne_link found solid
    rw [LooksUp.walk_solid (keeps.find?_of_ne_file directory (by simp)) ⟨busy, down, short, stays⟩
      stands stillSolid]
    exact ih led
  | case2 | case5 | case6 | case7 | case8 | case10 | case13 => cases led

theorem locate (keeps : Keeps places files after) {goal : Goal} {path : Path} {location : Location}
    {entry : Entry} (led : files.locate goal path = .ok (.present location entry)) :
    ∃ now, after.locate goal path = .ok (.present location now) := by
  obtain ⟨here, walked, again⟩ := exists_walk_of_locate led
  obtain ⟨now, leads⟩ := keeps.walk walked
  exact ⟨now, (again after goal keeps.workingDirectory).trans leads⟩

end Keeps

/-! ## What a path names -/

theorem find?_of_locate {files : FileSystem} {goal : Goal} {path : Path} {location : Location}
    {entry : Entry} (led : files.locate goal path = .ok (.present location entry)) :
    files.find? location = some entry := by
  obtain ⟨here, walked, -⟩ := exists_walk_of_locate led
  exact find?_of_walk walked

theorem resolve_eq_ok_iff {files : FileSystem} {path : Path} {location : Location} {entry : Entry} :
    files.resolve path = .ok (location, entry) ↔
      files.locate .use path = .ok (.present location entry) := by
  unfold resolve
  split <;> simp_all

theorem isDirectory_iff {files : FileSystem} {path : Path} :
    files.isDirectory path = true ↔
      ∃ location, files.resolve path = .ok (location, .directory) := by
  unfold isDirectory
  split <;> simp_all

theorem isFile_iff {files : FileSystem} {path : Path} :
    files.isFile path = true ↔
      ∃ location contents executable,
        files.resolve path = .ok (location, .file contents executable) := by
  unfold isFile
  split <;> simp_all

theorem readText_eq_ok_iff {files : FileSystem} {path : Path} {location : Location} {text : Text} :
    files.readText path = .ok (location, text) ↔
      ∃ executable, files.resolve path = .ok (location, .file (.text text) executable) := by
  unfold readText readContents
  split
  · next read =>
    split at read <;> simp_all
  · next read =>
    split at read <;> simp_all
  · next read =>
    split at read <;> simp_all

/-- Where a path leads, links followed, if something is there. -/
def place? (files : FileSystem) (path : Path) : Option Location :=
  match files.resolve path with
  | .ok (location, _) => some location
  | .error _ => none

/-- Two paths that do not lead to the same place. -/
def Apart (files : FileSystem) (path other : Path) : Prop :=
  ∀ location, files.place? path = some location → files.place? other ≠ some location

theorem apart_iff {files : FileSystem} {path other : Path} :
    files.Apart path other ↔
      (files.place? path).all (fun location => files.place? other != some location) = true := by
  unfold Apart
  cases files.place? path <;> simp

instance (files : FileSystem) (path other : Path) : Decidable (files.Apart path other) :=
  decidable_of_iff _ apart_iff.symm

theorem place?_of_resolve {files : FileSystem} {path : Path} {location : Location} {entry : Entry}
    (found : files.resolve path = .ok (location, entry)) : files.place? path = some location := by
  rw [place?, found]

theorem place?_of_readText {files : FileSystem} {path : Path} {location : Location} {text : Text}
    (read : files.readText path = .ok (location, text)) : files.place? path = some location := by
  obtain ⟨executable, found⟩ := readText_eq_ok_iff.mp read
  exact place?_of_resolve found

namespace Keeps

variable {places : List Location} {files after : FileSystem}

theorem resolve (keeps : Keeps places files after) {path : Path} {location : Location}
    {entry : Entry} (found : files.resolve path = .ok (location, entry)) :
    ∃ now, after.resolve path = .ok (location, now) := by
  obtain ⟨now, leads⟩ := keeps.locate (resolve_eq_ok_iff.mp found)
  exact ⟨now, resolve_eq_ok_iff.mpr leads⟩

/-- A path leads to what it led to, unless that is a file that has been written. -/
theorem resolve_of_notMem (keeps : Keeps places files after) {path : Path} {location : Location}
    {entry : Entry} (found : files.resolve path = .ok (location, entry))
    (apart : location ∉ places) : after.resolve path = .ok (location, entry) := by
  obtain ⟨now, leads⟩ := keeps.resolve found
  have stood := find?_of_locate (resolve_eq_ok_iff.mp found)
  have stands := find?_of_locate (resolve_eq_ok_iff.mp leads)
  cases stands.symm.trans (keeps.find?_of_notMem stood apart)
  exact leads

theorem place? (keeps : Keeps places files after) {path : Path} {location : Location}
    (leads : files.place? path = some location) : after.place? path = some location := by
  unfold FileSystem.place? at leads
  split at leads
  · next found =>
    cases leads
    obtain ⟨now, still⟩ := keeps.resolve found
    exact place?_of_resolve still
  · cases leads

/-- A file is read as before, unless it has been written. -/
theorem readText (keeps : Keeps places files after) {path : Path} {location : Location}
    {text : Text} (read : files.readText path = .ok (location, text)) (apart : location ∉ places) :
    after.readText path = .ok (location, text) := by
  obtain ⟨executable, found⟩ := readText_eq_ok_iff.mp read
  exact readText_eq_ok_iff.mpr ⟨executable, keeps.resolve_of_notMem found apart⟩

theorem isFile (keeps : Keeps places files after) {path : Path} (file : files.isFile path = true) :
    after.isFile path = true := by
  obtain ⟨location, contents, executable, found⟩ := isFile_iff.mp file
  obtain ⟨now, leads⟩ := keeps.resolve found
  have stood := find?_of_locate (resolve_eq_ok_iff.mp found)
  have stands := find?_of_locate (resolve_eq_ok_iff.mp leads)
  obtain ⟨text, mark, still⟩ := keeps.holdsFile ⟨contents, executable, stood⟩
  cases stands.symm.trans still
  exact isFile_iff.mpr ⟨location, text, mark, leads⟩

theorem isDirectory (keeps : Keeps places files after) {path : Path}
    (directory : files.isDirectory path = true) : after.isDirectory path = true := by
  obtain ⟨location, found⟩ := isDirectory_iff.mp directory
  obtain ⟨now, leads⟩ := keeps.resolve found
  have stood := find?_of_locate (resolve_eq_ok_iff.mp found)
  have stands := find?_of_locate (resolve_eq_ok_iff.mp leads)
  cases stands.symm.trans (keeps.find?_of_ne_file stood (by simp))
  exact isDirectory_iff.mpr ⟨location, leads⟩

end Keeps

/-- Putting a file where none or one stands keeps all else. -/
theorem HoldsFileAtMost.keeps_put {files : FileSystem} {location : Location}
    (free : HoldsFileAtMost files location) (contents : Contents) (executable : Bool) :
    Keeps [location] files (files.put location (.file contents executable)) := by
  refine ⟨rfl, fun place entry found => ?_⟩
  rw [HoldsFile, HoldsFile, find?_put free.deep]
  by_cases here : place = location
  · obtain ⟨old, mark, rfl⟩ := free.file entry (here ▸ found)
    rw [if_pos here]
    exact .inr ⟨List.mem_singleton.mpr here, ⟨old, mark, found⟩, ⟨contents, executable, rfl⟩⟩
  · rw [if_neg here]
    exact .inl found

end ParserRefresh.FileSystem
