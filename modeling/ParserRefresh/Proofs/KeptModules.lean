import Mathlib.Data.List.Find
import ParserRefresh.Proofs.Actions
import ParserRefresh.Proofs.KeptFiles
import ParserRefresh.Proofs.Nesting
import ParserRefresh.Refresh.Run

/-! # The same prelude from files that are kept

A tree is inlined to the same text when nothing has been taken away, none of its modules has been
written, and no module is looked for at a path that has come to name a file. The source itself may
have been written, as long as it is the same without its rules: while modules are inlined, it is not
read again. -/

namespace ParserRefresh

open Text

namespace Modules

variable {files after : FileSystem} {places : List Location} {root : SourceUnit}

/-- Where modules are looked for that a unit declares. -/
def IsCandidate (unit : SourceUnit) (path : Path) : Prop :=
  ∃ line ∈ lines unit.text, ∃ number declaration,
    Declaration.parse? line number = some declaration ∧
      path ∈ candidates unit.directory declaration.name

/-- No unit that is inlined with the root looks for a module at a path that names a file in `after`
and not in `files`. -/
def NoNewCandidate (files after : FileSystem) (root : SourceUnit) : Prop :=
  ∀ unit, Relation.ReflTransGen (Declares files) root unit → ∀ path, IsCandidate unit path →
    after.isFile path = true → files.isFile path = true

/-- A module goes on being found in its file when no other place for it has come to hold one. -/
theorem resolve_of_keeps (keeps : FileSystem.Keeps places files after) {directory declaredIn : Path}
    {name : Text} {file : Path}
    (known : ∀ path ∈ candidates directory name, after.isFile path = true →
      files.isFile path = true)
    (found : resolve files directory name declaredIn = .ok file) :
    resolve after directory name declaredIn = .ok file := by
  have same : (candidates directory name).find? after.isFile =
      (candidates directory name).find? files.isFile := by
    refine List.find?_congr (fun path member => ?_)
    rw [Bool.eq_iff_iff]
    exact ⟨known path member, keeps.isFile⟩
  rw [resolve, same]
  exact found

/-- Inlining lines that could be inlined gives the same when no module of the tree has been written
but for a file on the way. -/
theorem inlineLines_of_keeps (keeps : FileSystem.Keeps places files after)
    (known : NoNewCandidate files after root) {source : Location}
    (apart : ∀ unit, Relation.ReflTransGen (Declares files) root unit →
      ∀ location ∈ places, files.place? unit.path = some location → location = source)
    {unit : Text} {way : List Path} {path : Path} {text : Text} {number : Nat}
    {rows out : List Text}
    (included : Relation.ReflTransGen (Declares files) root ⟨path, text⟩)
    (listed : rows ⊆ lines text) (there : onWay way (FileSystem.absolute source) = true)
    (done : inlineLines files unit way path number rows = .ok out) :
    inlineLines after unit way path number rows = .ok out := by
  fun_induction inlineLines files unit way path number rows generalizing text out with
  | case1 =>
    rw [inlineLines]
    exact done
  | case2 way path number line rest undeclared ih =>
    obtain ⟨later, inlined, rfl⟩ := map_eq_ok_iff.mp done
    rw [inlineLines_cons, undeclared]
    dsimp only
    rw [ih included (List.subset_of_cons_subset listed) there inlined]
    rfl
  | case3 | case4 | case5 | case6 => cases done
  | case7 way path number line rest declaration declared file found location inner read identity
      new body inlined ihBody =>
    rename_i ih
    obtain ⟨later, remaining, rfl⟩ := map_eq_ok_iff.mp done
    have here : line ∈ lines text := listed List.mem_cons_self
    have module : Relation.ReflTransGen (Declares files) root ⟨file, trim inner⟩ :=
      included.tail (.intro here declared found (SourceUnit.load_eq_ok_iff.mpr ⟨location, read⟩))
    -- The file of the module is not the source, which is on the way.
    have unwritten : location ∉ places := by
      intro written
      have same := apart _ module location written (FileSystem.place?_of_readText read)
      rw [← same] at there
      exact new there
    refine inlineLines_declared declared ?_ (keeps.readText read unwritten)
      (Bool.eq_false_iff.mpr new)
      (ihBody module (List.Subset.refl _) (onWay_append there) inlined)
      (ih included (List.subset_of_cons_subset listed) there remaining)
    exact resolve_of_keeps keeps
      (fun candidate member => known _ included candidate ⟨line, here, number, declaration,
        declared, member⟩) found

/-- Inlining the root gives the same when it has not moved. -/
theorem inline_of_keeps (keeps : FileSystem.Keeps places files after)
    (known : NoNewCandidate files after root) {source : Location}
    (apart : ∀ unit, Relation.ReflTransGen (Declares files) root unit →
      ∀ location ∈ places, files.place? unit.path = some location → location = source)
    {old new : Text} (read : files.readText root.path = .ok (source, old))
    (again : after.readText root.path = .ok (source, new)) {unit out : Text}
    (done : inline files unit root.path root.text = .ok out) :
    inline after unit root.path root.text = .ok out := by
  obtain ⟨rows, inlined, rfl⟩ := map_eq_ok_iff.mp done
  rw [FileSystem.identity_of_readText read] at inlined
  rw [inline, FileSystem.identity_of_readText again]
  have there : onWay [FileSystem.absolute source] (FileSystem.absolute source) = true :=
    onWay_self [] _
  rw [inlineLines_of_keeps keeps known apart .refl (List.Subset.refl _) there inlined]
  rfl

end Modules

/-! ## The passes of a prelude -/

theorem Pass.and_assoc (first second third : Pass) :
    (first.and second).and third = first.and (second.and third) := by
  funext text
  unfold Pass.and Attempt.andThen
  cases (first text).result with
  | error fault => rfl
  | ok between =>
    dsimp only
    cases (second between).result with
    | error fault => rfl
    | ok last => exact congrArg _ (List.append_assoc _ _ _)

theorem Pass.ofFallible_and {f : Text → Except Fault Text} {text out : Text}
    (done : f text = .ok out) (next : Pass) : ((Pass.ofFallible f).and next) text = next out := by
  unfold Pass.and Pass.ofFallible Attempt.andThen Attempt.quiet
  rw [done]
  rfl

/-- The passes after modules have been inlined. They look at no file. -/
def finishing [PatternLibrary] (options : PreludeOptions) : Except Fault Pass :=
  (Pass.stripCrateAttributes options.crateAttributes).map (fun attributes =>
    (Pass.stripTests options.markers.testSentinel).and
      ((Pass.stripComments options.keptComments).and
        (attributes.and (Pass.tidy.and (Pass.package options.header)))))

theorem prelude_eq [PatternLibrary] (files : FileSystem) (path : Path) (options : PreludeOptions) :
    prelude files path options = (finishing options).map (fun last =>
      (Pass.stripRules options.markers).and
        ((Pass.inlineModules files options.indentUnit path).and last)) := by
  unfold prelude flatten finishing
  cases Pass.stripCrateAttributes options.crateAttributes with
  | error fault => rfl
  | ok attributes =>
    refine congrArg Except.ok ?_
    simp only [Pass.and_assoc]

namespace Refresh

variable [PatternLibrary] {σ : Type} {options : Options} {before after : Workspace σ} {text : Text}

/-- The units that go into a prelude: the development source, trimmed and without its rules, and the
modules that are declared in one of them. -/
def Included (options : Options) (files : FileSystem) (unit : SourceUnit) : Prop :=
  ∃ text stripped, SourceUnit.load files options.layout.sourcePath =
      .ok ⟨options.layout.sourcePath, text⟩ ∧
    Rules.strip options.prelude.markers (trim text) = .ok stripped ∧
    Relation.ReflTransGen (Modules.Declares files) ⟨options.layout.sourcePath, stripped⟩ unit

/-- A prelude is made by stripping and inlining the source and taking the other passes. -/
theorem buildPrelude_eq_ok_iff :
    buildPrelude options before = (.ok text, after) ↔
      ∃ location source stripped inlined last,
        before.files.readText options.layout.sourcePath = .ok (location, source) ∧
        Rules.strip options.prelude.markers (trim source) = .ok stripped ∧
        Modules.inline before.files options.prelude.indentUnit options.layout.sourcePath stripped =
          .ok inlined ∧
        finishing options.prelude = .ok last ∧ (last inlined).result = .ok text ∧
        after = { before with
          journal := before.journal ++ (last inlined).warnings.map Event.warned } := by
  have attempt : ∀ {files : FileSystem} {path : Path} {source stripped inlined : Text}
      {last : Pass}, Rules.strip options.prelude.markers source = .ok stripped →
      Modules.inline files options.prelude.indentUnit path stripped = .ok inlined →
      ((Pass.stripRules options.prelude.markers).and
        ((Pass.inlineModules files options.prelude.indentUnit path).and last)) source =
          last inlined := by
    intro files path source stripped inlined last strips inlines
    exact (Pass.ofFallible_and strips _).trans (Pass.ofFallible_and inlines last)
  constructor
  · intro built
    obtain ⟨unit, _, ran, rest⟩ := Action.bind_eq_ok_iff.mp built
    obtain ⟨loaded, rfl⟩ := Action.load_eq_iff.mp ran
    obtain ⟨files, _, ran, rest⟩ := Action.bind_eq_ok_iff.mp rest
    cases ran
    obtain ⟨pass, _, ran, rest⟩ := Action.bind_eq_ok_iff.mp rest
    obtain ⟨made, rfl⟩ := Action.ofExcept_eq_iff.mp ran
    obtain ⟨done, rfl⟩ := Action.ofAttempt_eq_ok_iff.mp rest
    obtain ⟨location, source, read, rfl⟩ := SourceUnit.exists_of_load loaded
    rw [prelude_eq] at made
    obtain ⟨last, finishes, rfl⟩ := map_eq_ok_iff.mp made
    obtain ⟨stripped, strips, further⟩ := Pass.result_and_eq_ok_iff.mp done
    obtain ⟨inlined, inlines, finished⟩ := Pass.result_and_eq_ok_iff.mp further
    refine ⟨location, source, stripped, inlined, last, read, strips, inlines, finishes, finished,
      ?_⟩
    rw [attempt strips inlines]
  · rintro ⟨location, source, stripped, inlined, last, read, strips, inlines, finishes, done, rfl⟩
    have loaded := SourceUnit.load_eq_ok_iff.mpr ⟨location, read⟩
    have made := (prelude_eq before.files options.layout.sourcePath options.prelude).trans
      (map_eq_ok_iff.mpr ⟨last, finishes, rfl⟩)
    refine Action.bind_eq_ok_iff.mpr ⟨_, before, Action.load_eq_iff.mpr ⟨loaded, rfl⟩, ?_⟩
    refine Action.bind_eq_ok_iff.mpr ⟨before.files, before, rfl, ?_⟩
    refine Action.bind_eq_ok_iff.mpr ⟨_, before, Action.ofExcept_eq_iff.mpr ⟨made, rfl⟩, ?_⟩
    rw [Action.ofAttempt_eq_ok_iff, attempt strips inlines]
    exact ⟨done, rfl⟩

theorem files_of_buildPrelude (built : buildPrelude options before = (.ok text, after)) :
    after.files = before.files := by
  obtain ⟨location, source, stripped, inlined, last, -, -, -, -, -, rfl⟩ :=
    buildPrelude_eq_ok_iff.mp built
  rfl

/-- The prelude is the same when its modules are kept and the source has moved nowhere and is the
same without its rules. -/
theorem exists_buildPrelude_of_keeps {made again : Workspace σ} {places : List Location}
    {location : Location} {source spliced : Text}
    (built : buildPrelude options before = (.ok text, made))
    (read : before.files.readText options.layout.sourcePath = .ok (location, source))
    (keeps : FileSystem.Keeps places before.files again.files)
    (readAgain : again.files.readText options.layout.sourcePath = .ok (location, spliced))
    (same : (Rules.strip options.prelude.markers (trim spliced)).toOption =
      (Rules.strip options.prelude.markers (trim source)).toOption)
    (known : ∀ unit, Included options before.files unit → ∀ path, Modules.IsCandidate unit path →
      again.files.isFile path = true → before.files.isFile path = true)
    (apart : ∀ unit, Included options before.files unit → ∀ place ∈ places,
      before.files.place? unit.path = some place → place = location) :
    ∃ last, buildPrelude options again = (.ok text, last) ∧ last.files = again.files := by
  obtain ⟨_, _, stripped, inlined, last, reads, strips, inlines, finishes, done, rfl⟩ :=
    buildPrelude_eq_ok_iff.mp built
  cases read.symm.trans reads
  have included : ∀ unit, Relation.ReflTransGen (Modules.Declares before.files)
      ⟨options.layout.sourcePath, stripped⟩ unit → Included options before.files unit :=
    fun unit reached =>
      ⟨source, stripped, SourceUnit.load_eq_ok_iff.mpr ⟨location, read⟩, strips, reached⟩
  have stripsAgain : Rules.strip options.prelude.markers (trim spliced) = .ok stripped := by
    rw [strips] at same
    cases outcome : Rules.strip options.prelude.markers (trim spliced) with
    | error fault =>
      rw [outcome] at same
      cases same
    | ok left =>
      rw [outcome] at same
      cases same
      rfl
  have settled : Modules.NoNewCandidate before.files again.files
      ⟨options.layout.sourcePath, stripped⟩ :=
    fun unit reached => known unit (included unit reached)
  have inlinesAgain := Modules.inline_of_keeps keeps settled
    (fun unit reached => apart unit (included unit reached)) read readAgain inlines
  exact ⟨_, buildPrelude_eq_ok_iff.mpr ⟨location, spliced, stripped, inlined, last, readAgain,
    stripsAgain, inlinesAgain, finishes, done, rfl⟩, rfl⟩

end Refresh

end ParserRefresh
