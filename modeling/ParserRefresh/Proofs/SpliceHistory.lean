import ParserRefresh.Proofs.Nesting
import ParserRefresh.Proofs.RefreshSteps
import ParserRefresh.Proofs.RuleRegions

/-! # What no splice touches

The lines of a source up to its first start marker, and those from the first end marker after it,
outlast every history of splices and refreshes. A block may hold markers of either kind, so the
region that is found next time can be another one; but it starts at the same line and ends at the
same end marker or before it. -/

namespace ParserRefresh

open Text Rules

/-- Replacing in a text whose region has been filled somehow fills this region once more. -/
theorem Rules.Region.exists_refilled_of_replace {markers : Markers} {rows interior : List Text}
    (region : Region markers rows) {block : RuleBlock} {text spliced : Text}
    (whole : lines text = region.refilled interior)
    (replaced : replace markers block text = .ok spliced) :
    ∃ filled, lines spliced = region.refilled filled := by
  obtain ⟨found, rfl⟩ := replace_eq_ok_iff.mp replaced
  have opening : breakAt (fun line => trim line == markers.rulesStart) (lines text) =
      some (region.before, region.start, interior ++ region.close :: region.rest) :=
    breakAt_eq_some_iff.mpr ⟨whole, by simp [region.opens], by simpa using region.closed_before⟩
  have parts := Option.some.inj (found.breakAt_start.symm.trans opening)
  obtain ⟨before, tail⟩ := Prod.mk.inj parts
  obtain ⟨start, behind⟩ := Prod.mk.inj tail
  -- The region that is found ends at the old end marker or before it.
  have ends : ∃ more, found.close :: found.rest = more ++ region.close :: region.rest := by
    rcases List.append_eq_append_iff.mp behind with ⟨more, -, same⟩ | ⟨more, inside, same⟩
    · exact ⟨more, same⟩
    · cases more with
      | nil => exact ⟨[], same.symm⟩
      | cons row more =>
        obtain ⟨rfl, -⟩ := List.cons.inj same
        exact absurd region.closes (found.open_inside _ (by rw [inside]; simp))
  obtain ⟨more, last⟩ := ends
  refine ⟨found.filling block ++ more, ?_⟩
  rw [found.lines_unlines_refilled, Region.refilled, Region.refilled, before, start, last,
    List.append_assoc]

namespace Refresh

section

variable [PatternLibrary] {σ : Type}

/-! ## Histories -/

/-- What is done to a project: some output is spliced, or a refresh is run with some commands. -/
inductive Deed (σ : Type) where
  | splice (compiled : Text)
  | run (runner : Runner σ)

/-- What a deed leaves behind, whether it succeeds or fails. -/
def perform (options : Options) (before : Workspace σ) : Deed σ → Workspace σ
  | .splice compiled => (splice options compiled before).2
  | .run runner => (run options runner before).2

/-- A step leaves the source to the splice: an artifact that it writes is another file, and a
command that it asks for leaves the text of the source as it is. -/
def SparesSource (options : Options) (before after : FileSystem) : Step → Prop
  | .writePrelude => after.Apart options.layout.preludePath options.layout.sourcePath
  | .writeCompiled => after.Apart options.layout.compiledPath options.layout.sourcePath
  | .rebuild | .compile =>
    SourceUnit.load after options.layout.sourcePath =
      SourceUnit.load before options.layout.sourcePath
  | .buildPrelude | .splice => True

def Deed.Spares (options : Options) (before : Workspace σ) : Deed σ → Prop
  | .splice _ => True
  | .run runner => ∀ step progress reached,
    takeAll options runner step.earlier (.start options) before = (.ok progress, reached) →
      SparesSource options reached.files (take options runner progress step reached).2.files step

/-- The source can be read, and its lines are those of a text whose region has been filled
somehow. -/
def KeepsSurroundings (options : Options) {source : Text}
    (region : Region options.prelude.markers (lines source)) (files : FileSystem) : Prop :=
  ∃ text interior, SourceUnit.load files options.layout.sourcePath =
      .ok ⟨options.layout.sourcePath, text⟩ ∧ lines text = region.refilled interior

variable {options : Options} {source : Text}
  {region : Region options.prelude.markers (lines source)}
  {before after : Workspace σ}

/-! ## One step -/

namespace KeepsSurroundings

omit [PatternLibrary] in
theorem of_keeps {files written : FileSystem} {places : List Location}
    (surrounded : KeepsSurroundings options region files)
    (keeps : FileSystem.Keeps places files written)
    (apart : ∀ location, files.place? options.layout.sourcePath = some location →
      location ∉ places) : KeepsSurroundings options region written := by
  obtain ⟨text, interior, loaded, whole⟩ := surrounded
  obtain ⟨location, read⟩ := SourceUnit.load_eq_ok_iff.mp loaded
  have still := keeps.readText read (apart location (FileSystem.place?_of_readText read))
  exact ⟨text, interior, SourceUnit.load_eq_ok_iff.mpr ⟨location, still⟩, whole⟩

omit [PatternLibrary] in
/-- Writing an artifact to another file, or failing to write it, leaves the source as it is. -/
theorem writeArtifact {path : Path} {text : Text} {outcome : Except Fault Unit}
    (surrounded : KeepsSurroundings options region before.files)
    (apart : after.files.Apart path options.layout.sourcePath)
    (ended : Action.writeArtifact path text before = (outcome, after)) :
    KeepsSurroundings options region after.files := by
  cases outcome with
  | error fault =>
    obtain ⟨-, made⟩ := Action.writeArtifact_error ended
    exact surrounded.of_keeps made.keeps (fun _ _ => List.not_mem_nil)
  | ok =>
    obtain ⟨written, -⟩ := Action.writeArtifact_ok ended
    obtain ⟨location, keeps, stands⟩ := FileSystem.exists_of_writeArtifact written
    refine surrounded.of_keeps keeps (fun place leads member => ?_)
    rw [List.mem_singleton.mp member] at leads
    exact apart location (FileSystem.place?_of_readText stands.readText) (keeps.place? leads)

omit [PatternLibrary] in
/-- A splice fills the region, or leaves the source as it is. -/
theorem splice {compiled : Text} {outcome : Except Fault Report}
    (surrounded : KeepsSurroundings options region before.files)
    (ended : Refresh.splice options compiled before = (outcome, after)) :
    KeepsSurroundings options region after.files := by
  cases outcome with
  | error fault =>
    obtain ⟨-, made⟩ := splice_error ended
    exact surrounded.of_keeps made.keeps (fun _ _ => List.not_mem_nil)
  | ok report =>
    obtain ⟨block, original, spliced, -, loaded, replaced, -, ending⟩ := exists_of_splice_ok ended
    split at ending
    · rw [ending]
      exact surrounded
    · obtain ⟨text, interior, same, whole⟩ := surrounded
      cases loaded.symm.trans same
      obtain ⟨filled, refilled⟩ := region.exists_refilled_of_replace whole replaced
      obtain ⟨location, read⟩ := FileSystem.readText_of_writeArtifact ending.1
      exact ⟨spliced, filled, SourceUnit.load_eq_ok_iff.mpr ⟨location, read⟩, refilled⟩

/-- No step of a refresh that spares the source touches what is around its region. -/
theorem take {runner : Runner σ} {progress : Progress} {step : Step}
    {outcome : Except Fault Progress} (surrounded : KeepsSurroundings options region before.files)
    (spares : SparesSource options before.files after.files step)
    (ended : Refresh.take options runner progress step before = (outcome, after)) :
    KeepsSurroundings options region after.files := by
  have unchanged : ∀ files : FileSystem,
      SourceUnit.load files options.layout.sourcePath =
        SourceUnit.load before.files options.layout.sourcePath →
      KeepsSurroundings options region files := by
    obtain ⟨text, interior, loaded, whole⟩ := surrounded
    exact fun files same => ⟨text, interior, same.trans loaded, whole⟩
  cases step with
  | buildPrelude =>
    obtain ⟨inner, built⟩ := Action.exists_of_map ended
    obtain ⟨warnings, rfl⟩ := exists_warnings_of_buildPrelude built
    exact surrounded
  | writePrelude =>
    obtain ⟨inner, written⟩ := Action.exists_of_map ended
    exact surrounded.writeArtifact spares written
  | rebuild => exact unchanged _ spares
  | compile => exact unchanged _ spares
  | writeCompiled =>
    obtain ⟨inner, written⟩ := Action.exists_of_map ended
    exact surrounded.writeArtifact spares written
  | splice =>
    obtain ⟨inner, spliced⟩ := Action.exists_of_map ended
    exact surrounded.splice spliced

/-! ## Many steps -/

/-- The steps of a refresh, as far as it comes, leave what is around the region. -/
theorem takeAll {runner : Runner σ} {steps : List Step} {outcome : Except Fault Progress}
    (initial : steps <+: Step.all) (surrounded : KeepsSurroundings options region before.files)
    (spares : (Deed.run runner).Spares options before)
    (ended : Refresh.takeAll options runner steps (.start options) before = (outcome, after)) :
    KeepsSurroundings options region after.files := by
  induction steps using List.reverseRecOn generalizing outcome after with
  | nil =>
    cases ended
    exact surrounded
  | append_singleton steps step ih =>
    have earlier := (List.prefix_append steps [step]).trans initial
    have here : steps = step.earlier := by
      obtain ⟨later, whole⟩ := initial
      rw [List.append_assoc] at whole
      exact Step.earlier_of_append whole
    rw [takeAll_append, Action.bind_apply] at ended
    rcases start : Refresh.takeAll options runner steps (.start options) before with
      ⟨fault | reached, between⟩
    · rw [start] at ended
      cases ended
      exact ih earlier start
    · rw [start] at ended
      dsimp only at ended
      have spared := spares step reached between (here ▸ start)
      rcases taken : Refresh.take options runner reached step between with ⟨inner, last⟩
      rw [taken] at spared
      have still := (ih earlier start).take spared taken
      rw [Refresh.takeAll, Action.bind_apply, Action.during_apply, taken] at ended
      cases inner with
      | error fault =>
        cases ended
        exact still
      | ok further =>
        cases ended
        exact still

theorem perform {deed : Deed σ} (surrounded : KeepsSurroundings options region before.files)
    (spares : deed.Spares options before) :
    KeepsSurroundings options region (Refresh.perform options before deed).files := by
  cases deed with
  | splice compiled => exact surrounded.splice rfl
  | run runner =>
    obtain ⟨inner, ended⟩ :=
      Action.exists_of_map (congrFun (run_eq_takeAll options runner).symm before)
    exact surrounded.takeAll (List.prefix_refl _) spares ended

end KeepsSurroundings

/-- After each deed of a history that spares the source, the source has the lines around its first
region that it had at the start. -/
theorem keepsSurroundings_of_history
    (loaded : SourceUnit.load before.files options.layout.sourcePath =
      .ok ⟨options.layout.sourcePath, source⟩)
    (region : Region options.prelude.markers (lines source)) (deeds : List (Deed σ))
    (spares : ∀ earlier deed, earlier ++ [deed] <+: deeds →
      deed.Spares options (earlier.foldl (perform options) before)) :
    ∀ done, done <+: deeds →
      KeepsSurroundings options region (done.foldl (perform options) before).files := by
  intro done
  induction done using List.reverseRecOn with
  | nil => exact fun _ => ⟨source, region.interior, loaded, region.rows_eq⟩
  | append_singleton earlier deed ih =>
    intro initial
    have surrounded := ih ((List.prefix_append earlier [deed]).trans initial)
    rw [List.foldl_append]
    exact surrounded.perform (spares earlier deed initial)

end

/-- Output whose rules hold an end marker. -/
def closingOutput : Text := "rule!( Grammar <- x\n// RULES END\n".toList

def closedProject [PatternLibrary] : Workspace Nat :=
  perform smallOptions ⟨smallProject, 0, []⟩ (.splice closingOutput)

def smallRegion : Region smallOptions.prelude.markers
    (lines "// RULES START\n// RULES END\nf".toList) where
  before := []
  start := "// RULES START".toList
  interior := []
  close := "// RULES END".toList
  rest := [['f']]
  rows_eq := by decide +kernel
  opens := by decide +kernel
  closed_before := List.forall_mem_nil _
  closes := by decide +kernel
  open_inside := List.forall_mem_nil _

/-- Where an artifact and the source lie when the step is taken that writes the artifact. -/
def artifactPlaces [PatternLibrary] (path : Path) (step : Step) :
    Option Location × Option Location :=
  match takeAll smallOptions quietRunner step.earlier (.start smallOptions) closedProject with
  | (.ok progress, reached) =>
    let files := (take smallOptions quietRunner progress step reached).2.files
    (files.place? path, files.place? smallOptions.layout.sourcePath)
  | (.error _, _) => (none, none)

theorem artifactPlaces_writePrelude :
    letI := PatternLibrary.lenient
    artifactPlaces smallOptions.layout.preludePath .writePrelude =
      (some [['p']], some [['a']]) := by
  decide +kernel

theorem artifactPlaces_writeCompiled :
    letI := PatternLibrary.lenient
    artifactPlaces smallOptions.layout.compiledPath .writeCompiled =
      (some [['c']], some [['a']]) := by
  decide +kernel

theorem apart_of_artifactPlaces [PatternLibrary] {progress : Progress}
    {reached : Workspace Nat} {step : Step}
    {path : Path} {place : Location}
    (taken : takeAll smallOptions quietRunner step.earlier (.start smallOptions) closedProject =
      (.ok progress, reached))
    (found : artifactPlaces path step = (some place, some [['a']])) (different : place ≠ [['a']]) :
    (take smallOptions quietRunner progress step reached).2.files.Apart path
      smallOptions.layout.sourcePath := by
  intro location leads again
  unfold artifactPlaces at found
  rw [taken] at found
  obtain ⟨first, second⟩ := Prod.mk.inj found
  cases first.symm.trans leads
  cases second.symm.trans again
  exact different rfl

theorem spares_quietRunner :
    letI := PatternLibrary.lenient
    (Deed.run quietRunner).Spares smallOptions closedProject := by
  let := PatternLibrary.lenient
  intro step progress reached taken
  cases step with
  | buildPrelude => trivial
  | writePrelude => exact apart_of_artifactPlaces taken artifactPlaces_writePrelude (by decide)
  | rebuild => rfl
  | compile => rfl
  | writeCompiled => exact apart_of_artifactPlaces taken artifactPlaces_writeCompiled (by decide)
  | splice => trivial

def closingHistory : List (Deed Nat) := [.splice closingOutput, .run quietRunner]

theorem readText_closingHistory :
    letI := PatternLibrary.lenient
    (closingHistory.foldl (perform smallOptions) ⟨smallProject, 0, []⟩).files.readText
        ⟨"./a".toList⟩ =
      .ok ([['a']], "// RULES START\n\nrule!( Grammar <- y\n\n// RULES END\n".toList ++
        "\n// RULES END\nf".toList) := by
  decide +kernel

theorem load_smallProject :
    SourceUnit.load smallProject smallOptions.layout.sourcePath =
      .ok ⟨smallOptions.layout.sourcePath, "// RULES START\n// RULES END\nf".toList⟩ := by
  decide +kernel

/-- The second splice ends the region at the end marker that the first one has put into it. -/
theorem keepsSurroundings_of_history_closingOutput :
    letI := PatternLibrary.lenient
    (∀ earlier deed, earlier ++ [deed] <+: closingHistory →
      deed.Spares smallOptions (earlier.foldl (perform smallOptions) ⟨smallProject, 0, []⟩)) ∧
    KeepsSurroundings smallOptions smallRegion
      (closingHistory.foldl (perform smallOptions) ⟨smallProject, 0, []⟩).files ∧
    (closingHistory.foldl (perform smallOptions) ⟨smallProject, 0, []⟩).files.readText
        ⟨"./a".toList⟩ =
      .ok ([['a']], "// RULES START\n\nrule!( Grammar <- y\n\n// RULES END\n".toList ++
        "\n// RULES END\nf".toList) := by
  let := PatternLibrary.lenient
  have spares : ∀ earlier deed, earlier ++ [deed] <+: closingHistory →
      deed.Spares smallOptions (earlier.foldl (perform smallOptions) ⟨smallProject, 0, []⟩) := by
    intro earlier deed initial
    match earlier with
    | [] =>
      rw [(List.cons_prefix_cons.mp initial).1]
      trivial
    | [first] =>
      obtain ⟨rfl, behind⟩ := List.cons_prefix_cons.mp initial
      rw [(List.cons_prefix_cons.mp behind).1]
      exact spares_quietRunner
    | first :: second :: more =>
      have size := initial.length_le
      simp [closingHistory] at size
  exact ⟨spares, keepsSurroundings_of_history load_smallProject smallRegion _ spares _
    (List.prefix_refl _), readText_closingHistory⟩

end Refresh

end ParserRefresh
