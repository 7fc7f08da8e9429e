import ParserRefresh.Proofs.KeptFiles

/-! # Reading what has been written

A file is written at the location that its path leads to. The file that is put there turns no
directory and no link on the way into something else, so the path leads to it again, and what is
read there is what was written. Writing it once more changes nothing. An artifact that cannot be
written changes no file, although directories may have been made for it. -/

namespace ParserRefresh.FileSystem

/-! ## Following a path again -/

/-- What is wanted for writing may be used. -/
theorem walk_use_of_create {files : FileSystem} {links : Nat} {here : Location} {parts : List Text}
    {place : Place} (led : files.walk .create links here parts = .ok place) :
    files.walk .use links here parts = .ok place := by
  fun_induction walk files .create links here parts with
  | case1 links here entry found =>
    rw [walk_nil, found]
    exact led
  | case3 links here part rest directory idle ih =>
    rw [walk_idle directory idle]
    exact ih led
  | case4 links here rest directory busy ih =>
    rw [walk_up directory]
    exact ih led
  | case7 links here part rest directory busy down short next atEnd stays vacant last =>
    rw [LooksUp.walk_vacant directory ⟨busy, down, short, by simp⟩ vacant last]
    exact led
  | case9 links here part rest directory busy down short next atEnd stays aim link named =>
    cases named.1
  | case11 here part rest directory busy down short next atEnd stays aim link other links ih =>
    rw [LooksUp.walk_link directory ⟨busy, down, short, by simp⟩ link (by simp)]
    exact ih led
  | case12 links here part rest directory busy down short next atEnd stays entry solid found ih =>
    rw [LooksUp.walk_solid directory ⟨busy, down, short, by simp⟩ found solid]
    exact ih led
  | case2 | case5 | case6 | case8 | case10 | case13 => cases led

/-- What can be used has a name, which may be that of a link to it. -/
theorem exists_walk_name_of_use {files : FileSystem} {links : Nat} {here location : Location}
    {parts : List Text} {entry : Entry}
    (led : files.walk .use links here parts = .ok (.present location entry)) :
    ∃ named stands, files.walk .name links here parts = .ok (.present named stands) := by
  fun_induction walk files .use links here parts with
  | case1 links here found stands =>
    exact ⟨_, _, by rw [walk_nil, stands]⟩
  | case3 links here part rest directory idle ih =>
    rw [walk_idle directory idle]
    exact ih led
  | case4 links here rest directory busy ih =>
    rw [walk_up directory]
    exact ih led
  | case11 here part rest directory busy down short next atEnd stays aim link other links ih =>
    have named : LooksUp .name part rest := ⟨busy, down, short, by simp⟩
    by_cases last : rest = []
    · subst last
      exact ⟨_, _, named.walk_named directory link⟩
    · rw [named.walk_link directory link (fun stops => last stops.2)]
      exact ih led
  | case12 links here part rest directory busy down short next atEnd stays entry solid found ih =>
    rw [LooksUp.walk_solid directory ⟨busy, down, short, by simp⟩ found solid]
    exact ih led
  | case9 links here part rest directory busy down short next atEnd stays aim link named =>
    cases named.1
  | case2 | case5 | case6 | case7 | case8 | case10 | case13 => cases led

/-- Separators behind a directory lead nowhere else. -/
theorem walk_of_forall_isEmpty {files : FileSystem} {goal : Goal} {links : Nat} {here : Location}
    (directory : files.find? here = some .directory) {parts : List Text}
    (empty : parts.all List.isEmpty = true) :
    files.walk goal links here parts = .ok (.present here .directory) := by
  induction parts with
  | nil => rw [walk_nil, directory]
  | cons part rest ih =>
    rw [List.all_cons, Bool.and_eq_true, List.isEmpty_iff] at empty
    obtain ⟨rfl, later⟩ := empty
    exact (walk_idle directory rfl).trans (ih later)

/-- A walk to a free name leads, once something is put there that is no link, to what has been put.
A file has no separators behind it. -/
theorem walk_put_of_vacant {files : FileSystem} {goal wanted : Goal} {links : Nat}
    {here location : Location} {parts : List Text} {entry : Entry}
    (led : files.walk goal links here parts = .ok (.vacant location))
    (follows : wanted = .use ∨ wanted = .create ∧ goal = .create)
    (solid : ∀ target, entry ≠ .link target) (fits : goal = .create ∨ entry = .directory) :
    (files.put location entry).walk wanted links here parts = .ok (.present location entry) := by
  obtain ⟨free, deep⟩ := find?_of_walk_vacant led
  have there : (files.put location entry).find? location = some entry := by
    rw [find?_put deep, if_pos rfl]
  have kept : ∀ {place : Location} {old : Entry}, files.find? place = some old →
      (files.put location entry).find? place = some old := by
    intro place old stands
    rw [find?_put deep, if_neg]
    · exact stands
    · rintro rfl
      cases free.symm.trans stands
  have unnamed : wanted ≠ .name := by
    rintro rfl
    rcases follows with wrong | ⟨wrong, -⟩ <;> cases wrong
  have still : ∀ rest : List Text, ¬ (goal = .create ∧ rest.all List.isEmpty = true ∧ rest ≠ []) →
      ¬ (wanted = .create ∧ rest.all List.isEmpty = true ∧ rest ≠ []) := by
    rintro rest stays ⟨rfl, last, some⟩
    rcases follows with wrong | ⟨-, rfl⟩
    · cases wrong
    · exact stays ⟨rfl, last, some⟩
  fun_induction walk files goal links here parts with
  | case3 links here part rest directory idle ih =>
    rw [walk_idle (kept directory) idle]
    exact ih led
  | case4 links here rest directory busy ih =>
    rw [walk_up (kept directory)]
    exact ih led
  | case7 links here part rest directory busy down short next atEnd stays vacant last =>
    have same : here ++ [part] = location := Place.vacant.inj (Except.ok.inj led)
    rw [LooksUp.walk_solid (kept directory) ⟨busy, down, short, still rest stays⟩ (same ▸ there)
      solid, same]
    -- With a separator behind it the free name would have been refused to a file.
    have tail : rest = [] ∨ entry = .directory := by
      rcases fits with rfl | made
      · exact .inl (by_contra fun some => stays ⟨rfl, last, some⟩)
      · exact .inr made
    rcases tail with rfl | rfl
    · rw [walk_nil, there]
    · exact walk_of_forall_isEmpty there last
  | case11 here part rest directory busy down short next atEnd stays aim link other links ih =>
    rw [LooksUp.walk_link (kept directory) ⟨busy, down, short, still rest stays⟩ (kept link)
      (fun named => unnamed named.1)]
    exact ih led
  | case12 links here part rest directory busy down short next atEnd stays old solid found ih =>
    rw [LooksUp.walk_solid (kept directory) ⟨busy, down, short, still rest stays⟩ (kept found)
      solid]
    exact ih led
  | case1 | case2 | case5 | case6 | case8 | case9 | case10 | case13 => cases led

/-! ## Written texts -/

/-- A file that has been written is where its path leads, for writing it again and for reading. -/
theorem exists_of_write {files after : FileSystem} {path : Path} {contents : Contents}
    (written : files.write path contents = .ok after) :
    ∃ location executable, Keeps [location] files after ∧
      after.locate .create path = .ok (.present location (.file contents executable)) ∧
      after.resolve path = .ok (location, .file contents executable) := by
  have finish : ∀ {location : Location} {executable : Bool},
      files.HoldsFileAtMost location →
      (files.put location (.file contents executable)).locate .create path =
        .ok (.present location (.file contents executable)) →
      ∃ place mark, Keeps [place] files (files.put location (.file contents executable)) ∧
        (files.put location (.file contents executable)).locate .create path =
          .ok (.present place (.file contents mark)) ∧
        (files.put location (.file contents executable)).resolve path =
          .ok (place, .file contents mark) := by
    intro location executable free leads
    obtain ⟨here, walked, again⟩ := exists_walk_of_locate leads
    refine ⟨location, executable, free.keeps_put contents executable, leads, ?_⟩
    rw [resolve_eq_ok_iff, again _ .use rfl]
    exact walk_use_of_create walked
  unfold write at written
  split at written
  · next location old executable led =>
    cases written
    have free : files.HoldsFileAtMost location :=
      HoldsFile.atMost ⟨old, executable, find?_of_locate led⟩
    obtain ⟨now, leads⟩ := (free.keeps_put contents executable).locate led
    have stands := find?_of_locate leads
    rw [find?_put free.deep, if_pos rfl] at stands
    cases stands
    exact finish free leads
  · cases written
  · next location led =>
    cases written
    obtain ⟨here, walked, again⟩ := exists_walk_of_locate led
    refine finish (holdsFileAtMost_of_walk_vacant walked) ?_
    rw [again (files.put location (.file contents false)) .create rfl]
    exact walk_put_of_vacant walked (.inr ⟨rfl, rfl⟩) (by simp) (.inl rfl)
  · cases written

/-- Writing what a file holds changes nothing. -/
theorem write_of_locate {files : FileSystem} {path : Path} {location : Location}
    {contents : Contents} {executable : Bool}
    (leads : files.locate .create path = .ok (.present location (.file contents executable))) :
    files.write path contents = .ok files := by
  have stands := find?_of_locate leads
  have deep := (HoldsFile.atMost ⟨contents, executable, stands⟩).deep
  rw [write, leads]
  dsimp only
  rw [put_of_find? deep stands]

/-! ## Directories for an artifact -/

/-- Directories have been made at free names, and nothing else has been done. -/
structure MadeDirectories (files after : FileSystem) : Prop where
  workingDirectory : after.workingDirectory = files.workingDirectory
  find? : ∀ place, after.find? place = files.find? place ∨
    files.find? place = none ∧ after.find? place = some .directory

theorem MadeDirectories.refl (files : FileSystem) : MadeDirectories files files :=
  ⟨rfl, fun _ => .inl rfl⟩

theorem MadeDirectories.trans {files between after : FileSystem}
    (start : MadeDirectories files between) (rest : MadeDirectories between after) :
    MadeDirectories files after := by
  refine ⟨rest.workingDirectory.trans start.workingDirectory, fun place => ?_⟩
  rcases rest.find? place with same | ⟨free, made⟩
  · rw [same]
    exact start.find? place
  · rcases start.find? place with same | ⟨-, early⟩
    · exact .inr ⟨same.symm.trans free, made⟩
    · cases free.symm.trans early

theorem MadeDirectories.keeps {files after : FileSystem} (made : MadeDirectories files after) :
    Keeps [] files after := by
  refine ⟨made.workingDirectory, fun place entry found => .inl ?_⟩
  rcases made.find? place with same | ⟨free, -⟩
  · rw [same, found]
  · cases free.symm.trans found

theorem madeDirectories_of_makeDirectory {files after : FileSystem} {path : Path}
    (made : files.makeDirectory path = .ok after) : MadeDirectories files after := by
  unfold makeDirectory at made
  split at made
  · cases made
  · next location led =>
    obtain ⟨here, walked, -⟩ := exists_walk_of_locate led
    obtain ⟨vacant, deep⟩ := find?_of_walk_vacant walked
    cases made
    refine ⟨rfl, fun place => ?_⟩
    rw [find?_put deep]
    split
    · next same => exact .inr ⟨same ▸ vacant, rfl⟩
    · exact .inl rfl
  · cases made

theorem madeDirectories_ensureDirectory (files : FileSystem) (path : Path) :
    MadeDirectories files (files.ensureDirectory path).2 := by
  unfold ensureDirectory
  split
  · next made => exact madeDirectories_of_makeDirectory made
  · split
    · exact .refl files
    · exact .refl files

theorem madeDirectories_ensureDirectories (files : FileSystem) (path : Path) :
    MadeDirectories files (files.ensureDirectories path).2 := by
  fun_induction ensureDirectories files path with
  | case1 => exact .refl _
  | case2 => exact .refl _
  | case3 path some missing parent above between made ih =>
    rw [made] at ih
    exact ih.trans (madeDirectories_ensureDirectory between path)
  | case4 path some missing parent above refusal between failed ih =>
    rw [failed] at ih
    exact ih
  | case5 path => exact madeDirectories_ensureDirectory files path

theorem isDirectory_of_makeDirectory {files after : FileSystem} {path : Path}
    (made : files.makeDirectory path = .ok after) : after.isDirectory path = true := by
  unfold makeDirectory at made
  split at made
  · cases made
  · next location led =>
    cases made
    obtain ⟨here, walked, again⟩ := exists_walk_of_locate led
    refine isDirectory_iff.mpr ⟨location, resolve_eq_ok_iff.mpr ?_⟩
    rw [again (files.put location .directory) .use rfl]
    exact walk_put_of_vacant walked (.inl rfl) (by simp) (.inr rfl)
  · cases made

theorem isDirectory_of_ensureDirectory {files after : FileSystem} {path : Path}
    (ensured : files.ensureDirectory path = (.ok (), after)) : after.isDirectory path = true := by
  unfold ensureDirectory at ensured
  split at ensured
  · next made =>
    cases ensured
    exact isDirectory_of_makeDirectory made
  · split at ensured
    · next there =>
      cases ensured
      exact there
    · cases ensured

/-- What has been made or was there is a directory. -/
theorem isDirectory_of_ensureDirectories {files after : FileSystem} {path : Path}
    (some : path.text.isEmpty = false)
    (ensured : files.ensureDirectories path = (.ok (), after)) : after.isDirectory path = true := by
  rw [ensureDirectories, if_neg (Bool.eq_false_iff.mp some)] at ensured
  split at ensured
  · split at ensured
    · cases ensured
    · split at ensured
      · exact isDirectory_of_ensureDirectory ensured
      · cases ensured
  · exact isDirectory_of_ensureDirectory ensured

/-- A directory that is there is not made. -/
theorem ensureDirectories_of_isDirectory {files : FileSystem} {path : Path}
    (there : path.text.isEmpty = true ∨ files.isDirectory path = true) :
    files.ensureDirectories path = (.ok (), files) := by
  rw [ensureDirectories]
  split
  · rfl
  next some =>
  have directory := there.resolve_left some
  obtain ⟨location, found⟩ := isDirectory_iff.mp directory
  obtain ⟨here, walked, again⟩ := exists_walk_of_locate (resolve_eq_ok_iff.mp found)
  obtain ⟨named, stands, leads⟩ := exists_walk_name_of_use walked
  have refused : files.makeDirectory path = .error .alreadyExists := by
    rw [makeDirectory, again files .name rfl, leads]
  have ensured : files.ensureDirectory path = (.ok (), files) := by
    rw [ensureDirectory, refused, directory]
    rfl
  rw [refused]
  exact ensured

/-! ## Artifacts -/

/-- An artifact that has been written stands where its path leads, in a directory that is there. -/
structure Written (files : FileSystem) (path : Path) (location : Location) (text : Text) :
    Prop where
  locate : ∃ executable,
    files.locate .create path = .ok (.present location (.file (.text text) executable))
  readText : files.readText path = .ok (location, text)
  directory : path.directory.text.isEmpty = true ∨ files.isDirectory path.directory = true

theorem exists_of_writeArtifact {files after : FileSystem} {path : Path} {text : Text}
    (written : files.writeArtifact path text = (.ok (), after)) :
    ∃ location, Keeps [location] files after ∧ after.Written path location text := by
  have above := madeDirectories_ensureDirectories files path.directory
  unfold writeArtifact at written
  dsimp only at written
  split at written
  · cases written
  next between ensured =>
  rw [ensured] at above
  split at written
  · next done =>
    cases written
    obtain ⟨location, executable, keeps, leads, found⟩ := exists_of_write done
    refine ⟨location, above.keeps.trans keeps, ⟨executable, leads⟩,
      readText_eq_ok_iff.mpr ⟨executable, found⟩, ?_⟩
    cases some : path.directory.text.isEmpty with
    | true => exact .inl rfl
    | false => exact .inr (keeps.isDirectory (isDirectory_of_ensureDirectories some ensured))
  · cases written

/-- An artifact that has been written is read back. -/
theorem readText_of_writeArtifact {files after : FileSystem} {path : Path} {text : Text}
    (written : files.writeArtifact path text = (.ok (), after)) :
    ∃ location, after.readText path = .ok (location, text) := by
  obtain ⟨location, -, stands⟩ := exists_of_writeArtifact written
  exact ⟨location, stands.readText⟩

/-- An artifact goes on standing where it is until it is written over. -/
theorem Written.keep {files after : FileSystem} {path : Path} {location : Location} {text : Text}
    {places : List Location} (stands : files.Written path location text)
    (keeps : Keeps places files after) (apart : location ∉ places) :
    after.Written path location text := by
  have read := keeps.readText stands.readText apart
  refine ⟨?_, read, stands.directory.imp_right keeps.isDirectory⟩
  obtain ⟨executable, leads⟩ := stands.locate
  obtain ⟨now, still⟩ := keeps.locate leads
  obtain ⟨mark, found⟩ := readText_eq_ok_iff.mp read
  have entry := find?_of_locate (resolve_eq_ok_iff.mp found)
  cases entry.symm.trans (find?_of_locate still)
  exact ⟨mark, still⟩

/-- Writing an artifact that stands there already changes nothing. -/
theorem Written.writeArtifact {files : FileSystem} {path : Path} {location : Location} {text : Text}
    (stands : files.Written path location text) :
    files.writeArtifact path text = (.ok (), files) := by
  obtain ⟨executable, leads⟩ := stands.locate
  unfold FileSystem.writeArtifact
  dsimp only
  rw [ensureDirectories_of_isDirectory stands.directory]
  dsimp only
  rw [write_of_locate leads]

/-! ## Artifacts that cannot be written -/

/-- Two file systems with the same regular files at the same locations. -/
def SameFiles (files after : FileSystem) : Prop :=
  ∀ location contents executable, after.find? location = some (.file contents executable) ↔
    files.find? location = some (.file contents executable)

theorem MadeDirectories.sameFiles {files after : FileSystem} (made : MadeDirectories files after) :
    SameFiles files after := by
  intro place contents executable
  rcases made.find? place with same | ⟨free, new⟩
  · rw [same]
  · simp [free, new]

/-- An artifact that cannot be written leaves all files as they are; directories may be new. -/
theorem madeDirectories_of_writeArtifact_error {files after : FileSystem} {path : Path}
    {text : Text} {fault : Fault} (failed : files.writeArtifact path text = (.error fault, after)) :
    MadeDirectories files after := by
  have above := madeDirectories_ensureDirectories files path.directory
  unfold writeArtifact at failed
  dsimp only at failed
  generalize files.ensureDirectories path.directory = made at above failed
  split at failed
  · cases failed
    exact above
  · split at failed
    · cases failed
    · cases failed
      exact above

end ParserRefresh.FileSystem
