import ParserRefresh.Proofs.KeptModules
import ParserRefresh.Proofs.RefreshSteps
import ParserRefresh.Proofs.SplicedSource

/-! # Refreshing twice

A refresh reads what it has written itself when it is run again: the source, whose rules do not go
into the prelude. So the second prelude is the first one, and with the same output of the compiler
there is nothing left to splice. This takes artifacts that are no files of the tree; and the
directories that are made for them must not open the way, by a link, to another file in which a
module is looked for first. -/

namespace ParserRefresh

open Text

namespace Action

variable {σ : Type} {before after : Workspace σ}

theorem execute_of_answer {runner : Runner σ} {invocation : Invocation} {output : CommandOutput}
    {agent : σ} (answer : runner invocation before.agent before.files =
      (.ok output, agent, before.files)) :
    ∃ after, execute runner invocation before = (output.requireSuccess invocation, after) ∧
      after.files = before.files ∧ after.agent = agent := by
  refine ⟨⟨before.files, agent, before.journal ++ [.invoked invocation]⟩, ?_, rfl, rfl⟩
  rw [execute, bind_apply]
  unfold invoke
  rw [answer]
  rfl

theorem requireSuccess_eq_ok_iff {output result : CommandOutput} {invocation : Invocation} :
    output.requireSuccess invocation = .ok result ↔ output.success = true ∧ output = result := by
  unfold CommandOutput.requireSuccess
  split
  · next success => simp [success]
  · next failure => simp [failure]

theorem writeArtifact_of_written {path : Path} {location : Location} {text : Text}
    (stands : before.files.Written path location text) :
    ∃ after, writeArtifact path text before = (.ok (), after) ∧ after.files = before.files := by
  refine ⟨{ before with journal := before.journal ++ [.wrote path text] }, ?_, rfl⟩
  unfold writeArtifact
  rw [stands.writeArtifact]

end Action

namespace Refresh

section

variable [PatternLibrary] {σ : Type} {options : Options} {runner first second : Runner σ}
  {before after again reached : Workspace σ} {progress : Progress} {report : Report}
  {built compiled : CommandOutput}

/-- The commands of a refresh, asked for one after the other when the prelude has been written, give
these outputs and leave all files as they are. -/
def Answers (options : Options) (runner : Runner σ) (before : Workspace σ)
    (built compiled : CommandOutput) : Prop :=
  ∀ progress reached,
    takeAll options runner Step.rebuild.earlier (.start options) before = (.ok progress, reached) →
      ∃ between last,
        runner (buildInvocation options) reached.agent reached.files =
          (.ok built, between, reached.files) ∧
        runner (compileInvocation options) between reached.files =
          (.ok compiled, last, reached.files)

/-- The artifacts are different files, and neither is the file of a unit that goes into the prelude
of `tree`. All paths are followed in `files`. -/
structure OwnArtifacts (options : Options) (tree files : FileSystem) : Prop where
  artifacts : files.Apart options.layout.preludePath options.layout.compiledPath
  prelude : ∀ unit, Included options tree unit → files.Apart options.layout.preludePath unit.path
  compiled : ∀ unit, Included options tree unit → files.Apart options.layout.compiledPath unit.path

/-- Neither artifact is the file at a path where one of these units looks for a module. -/
def SparesCandidates (options : Options) (tree files : FileSystem) : Prop :=
  ∀ unit, Included options tree unit → ∀ path, Modules.IsCandidate unit path →
    files.Apart options.layout.preludePath path ∧ files.Apart options.layout.compiledPath path

/-- What a refresh does before the splice. -/
def artifactEffects (options : Options) (prelude compiled : Text) : List Event :=
  [.wrote options.layout.preludePath prelude,
    .invoked (buildInvocation options),
    .invoked (compileInvocation options),
    .wrote options.layout.compiledPath compiled]

/-- A refresh that is run after another one writes the artifacts that were written before, reports
the same rules and no change of the source, and leaves all files as it found them. -/
def Repeats (options : Options) (runner : Runner σ) (before after again : Workspace σ)
    (report : Report) (compiled : Text) : Prop :=
  ∃ prelude more last, Did before after (artifactEffects options prelude compiled ++ more) ∧
    run options runner again = (.ok { report with sourceChanged := false }, last) ∧
    Did again last (artifactEffects options prelude compiled) ∧ last.files = again.files

/-! ## The steps before the splice -/

theorem takeAll_rebuild_earlier {made written : Workspace σ} {prelude : Text}
    (builds : buildPrelude options before = (.ok prelude, made))
    (writes : Action.writeArtifact options.layout.preludePath prelude made = (.ok (), written)) :
    takeAll options runner Step.rebuild.earlier (.start options) before =
      (.ok { Progress.start options with prelude }, written) := by
  refine takeAll_cons_eq_ok_iff.mpr ⟨_, made, Action.map_eq_ok_iff.mpr ⟨_, builds, rfl⟩, ?_⟩
  refine takeAll_cons_eq_ok_iff.mpr ⟨_, written, Action.map_eq_ok_iff.mpr ⟨_, writes, rfl⟩, ?_⟩
  exact takeAll_nil_eq_ok_iff.mpr ⟨rfl, rfl⟩

/-- What is known of the files when a refresh has come to the splice. -/
theorem exists_of_takeAll_splice_earlier (answers : Answers options runner before built compiled)
    (taken : takeAll options runner Step.splice.earlier (.start options) before =
      (.ok progress, reached)) :
    ∃ made between, buildPrelude options before = (.ok progress.prelude, made) ∧
      made.files.writeArtifact options.layout.preludePath progress.prelude = (.ok (), between) ∧
      between.writeArtifact options.layout.compiledPath compiled.stdout = (.ok (), reached.files) ∧
      progress.compiled = compiled.stdout ∧ built.success = true ∧ compiled.success = true := by
  obtain ⟨_, made, stepped, rest⟩ := takeAll_cons_eq_ok_iff.mp taken
  obtain ⟨prelude, builds, rfl⟩ := Action.map_eq_ok_iff.mp stepped
  obtain ⟨_, written, stepped, rest⟩ := takeAll_cons_eq_ok_iff.mp rest
  obtain ⟨_, writes, rfl⟩ := Action.map_eq_ok_iff.mp stepped
  obtain ⟨between, last, rebuilds, compiles⟩ :=
    answers _ _ (takeAll_rebuild_earlier builds writes)
  obtain ⟨_, _, stepped, rest⟩ := takeAll_cons_eq_ok_iff.mp rest
  obtain ⟨_, ran, rfl⟩ := Action.map_eq_ok_iff.mp stepped
  obtain ⟨rebuilt, again, kept, agent⟩ := Action.execute_of_answer rebuilds
  obtain ⟨done, rfl⟩ := Prod.mk.inj (again.symm.trans ran)
  obtain ⟨success, -⟩ := Action.requireSuccess_eq_ok_iff.mp done
  obtain ⟨_, _, stepped, rest⟩ := takeAll_cons_eq_ok_iff.mp rest
  obtain ⟨_, ran, rfl⟩ := Action.map_eq_ok_iff.mp stepped
  rw [← kept, ← agent] at compiles
  obtain ⟨translated, again, still, -⟩ := Action.execute_of_answer compiles
  obtain ⟨done, rfl⟩ := Prod.mk.inj (again.symm.trans ran)
  obtain ⟨succeeds, rfl⟩ := Action.requireSuccess_eq_ok_iff.mp done
  obtain ⟨_, ended, stepped, rest⟩ := takeAll_cons_eq_ok_iff.mp rest
  obtain ⟨_, stores, rfl⟩ := Action.map_eq_ok_iff.mp stepped
  obtain ⟨rfl, rfl⟩ := takeAll_nil_eq_ok_iff.mp rest
  refine ⟨made, written.files, builds, (Action.writeArtifact_ok writes).1, ?_, rfl, success,
    succeeds⟩
  rw [← kept, ← still]
  exact (Action.writeArtifact_ok stores).1

/-- A refresh comes to the splice, and has changed no file, when the artifacts that it writes stand
there already. -/
theorem exists_takeAll_splice_earlier {made : Workspace σ} {prelude : Text}
    (answers : Answers options runner before built compiled)
    (builds : buildPrelude options before = (.ok prelude, made)) (same : made.files = before.files)
    {place location : Location}
    (preludeStands : before.files.Written options.layout.preludePath place prelude)
    (compiledStands : before.files.Written options.layout.compiledPath location compiled.stdout)
    (success : built.success = true) (succeeds : compiled.success = true) :
    ∃ reached, takeAll options runner Step.splice.earlier (.start options) before =
        (.ok ⟨prelude, compiled.stdout, (Progress.start options).report⟩, reached) ∧
      reached.files = before.files := by
  obtain ⟨written, writes, kept⟩ := Action.writeArtifact_of_written (same ▸ preludeStands)
  obtain ⟨between, last, rebuilds, compiles⟩ :=
    answers _ _ (takeAll_rebuild_earlier builds writes)
  obtain ⟨rebuilt, rebuilding, files, agent⟩ := Action.execute_of_answer rebuilds
  rw [← files, ← agent] at compiles
  obtain ⟨translated, compiling, still, -⟩ := Action.execute_of_answer compiles
  have whole : translated.files = before.files := by rw [still, files, kept, same]
  obtain ⟨reached, stores, unchanged⟩ :=
    Action.writeArtifact_of_written (whole ▸ compiledStands)
  rw [Action.requireSuccess_eq_ok_iff.mpr ⟨success, rfl⟩] at rebuilding
  rw [Action.requireSuccess_eq_ok_iff.mpr ⟨succeeds, rfl⟩] at compiling
  refine ⟨reached, ?_, unchanged.trans whole⟩
  have steps : Step.splice.earlier =
      Step.rebuild.earlier ++ [.rebuild, .compile, .writeCompiled] := rfl
  rw [steps, takeAll_append]
  refine Action.bind_eq_ok_iff.mpr ⟨_, written, takeAll_rebuild_earlier builds writes, ?_⟩
  refine takeAll_cons_eq_ok_iff.mpr ⟨_, rebuilt, Action.map_eq_ok_iff.mpr ⟨_, rebuilding, rfl⟩, ?_⟩
  refine takeAll_cons_eq_ok_iff.mpr
    ⟨_, translated, Action.map_eq_ok_iff.mpr ⟨_, compiling, rfl⟩, ?_⟩
  refine takeAll_cons_eq_ok_iff.mpr ⟨_, reached, Action.map_eq_ok_iff.mpr ⟨_, stores, rfl⟩, ?_⟩
  exact takeAll_nil_eq_ok_iff.mpr ⟨rfl, rfl⟩

/-! ## The splice -/

omit [PatternLibrary] in
/-- A splice that succeeds writes at most the file of the source, and what it has put together can
be read there. -/
theorem exists_keeps_of_splice {original : SourceUnit} {spliced : Text}
    (loaded : SourceUnit.load before.files options.layout.sourcePath = .ok original)
    (ending : if spliced = original.text then after = before
      else before.files.writeArtifact options.layout.sourcePath spliced = (.ok (), after.files) ∧
        Did before after [.wrote options.layout.sourcePath spliced]) :
    ∃ location, before.files.readText options.layout.sourcePath = .ok (location, original.text) ∧
      FileSystem.Keeps [location] before.files after.files ∧
      after.files.readText options.layout.sourcePath = .ok (location, spliced) := by
  obtain ⟨location, text, read, rfl⟩ := SourceUnit.exists_of_load loaded
  refine ⟨location, read, ?_⟩
  split at ending
  · next same =>
    rw [ending, same]
    exact ⟨(FileSystem.Keeps.refl _).mono (List.nil_subset _), read⟩
  · obtain ⟨place, keeps, stands⟩ := FileSystem.exists_of_writeArtifact ending.1
    have leads := keeps.place? (FileSystem.place?_of_readText read)
    cases leads.symm.trans (FileSystem.place?_of_readText stands.readText)
    exact ⟨keeps, stands.readText⟩

omit [PatternLibrary] in
/-- A splice that would put in what is there already changes nothing. -/
theorem splice_of_replace {output text : Text} {block : RuleBlock}
    (extracted : Rules.extract options.extract output = .ok block)
    (loaded : SourceUnit.load before.files options.layout.sourcePath =
      .ok ⟨options.layout.sourcePath, text⟩)
    (settled : Rules.replace options.prelude.markers block text = .ok text) :
    splice options output before =
      (.ok ⟨none, none, options.layout.sourcePath, block.lineCount, false⟩, before) := by
  refine Action.bind_eq_ok_iff.mpr ⟨block, before, Action.ofExcept_eq_iff.mpr ⟨extracted, rfl⟩, ?_⟩
  refine Action.bind_eq_ok_iff.mpr ⟨_, before, Action.load_eq_iff.mpr ⟨loaded, rfl⟩, ?_⟩
  refine Action.bind_eq_ok_iff.mpr ⟨text, before, Action.ofExcept_eq_iff.mpr ⟨settled, rfl⟩, ?_⟩
  have unchanged : (text != text) = false := by simp
  dsimp only
  rw [unchanged]
  rfl

/-! ## Whole refreshes -/

/-- What a refresh that has succeeded has put together, and the files between its writes. -/
structure Refreshed (options : Options) (before after : Workspace σ)
    (built compiled : CommandOutput) (report : Report) where
  prelude : Text
  block : RuleBlock
  original : Text
  spliced : Text
  /-- The location of the source. -/
  source : Location
  made : Workspace σ
  between : FileSystem
  reached : FileSystem
  more : List Event
  builds : buildPrelude options before = (.ok prelude, made)
  writes : made.files.writeArtifact options.layout.preludePath prelude = (.ok (), between)
  stores : between.writeArtifact options.layout.compiledPath compiled.stdout = (.ok (), reached)
  extracted : Rules.extract options.extract compiled.stdout = .ok block
  read : reached.readText options.layout.sourcePath = .ok (source, original)
  replaced : Rules.replace options.prelude.markers block original = .ok spliced
  keeps : FileSystem.Keeps [source] reached after.files
  readAgain : after.files.readText options.layout.sourcePath = .ok (source, spliced)
  did : Did before after (artifactEffects options prelude compiled.stdout ++ more)
  reported : report = ⟨some options.layout.preludePath, some options.layout.compiledPath,
    options.layout.sourcePath, block.lineCount, spliced != original⟩
  success : built.success = true
  succeeds : compiled.success = true

theorem nonempty_refreshed (answers : Answers options runner before built compiled)
    (done : run options runner before = (.ok report, after)) :
    Nonempty (Refreshed options before after built compiled report) := by
  obtain ⟨progress, reached, found, taken, ended, rfl⟩ := run_eq_ok_iff.mp done
  obtain ⟨made, between, builds, writes, stores, output, success, succeeds⟩ :=
    exists_of_takeAll_splice_earlier answers taken
  have did : Did before reached (artifactEffects options progress.prelude progress.compiled) :=
    takeAll_did (List.prefix_refl _) taken []
  rw [output] at ended did
  obtain ⟨block, original, spliced, extracted, loaded, replaced, rfl, ending⟩ :=
    exists_of_splice_ok ended
  obtain ⟨source, read, keeps, readAgain⟩ := exists_keeps_of_splice loaded ending
  have did : ∃ more, Did before after
      (artifactEffects options progress.prelude compiled.stdout ++ more) := by
    split at ending
    · exact ⟨[], by rwa [ending, List.append_nil]⟩
    · exact ⟨_, did.trans ending.2⟩
  obtain ⟨more, did⟩ := did
  exact ⟨⟨progress.prelude, block, original.text, spliced, source, made, between, reached.files,
    more, builds, writes, stores, extracted, read, replaced, keeps, readAgain, did, rfl, success,
    succeeds⟩⟩

/-- A refresh that finds all that it would write changes no file. -/
theorem exists_run_of_written {made : Workspace σ} {prelude text : Text} {block : RuleBlock}
    (answers : Answers options runner before built compiled)
    (builds : buildPrelude options before = (.ok prelude, made)) (same : made.files = before.files)
    {place location source : Location}
    (preludeStands : before.files.Written options.layout.preludePath place prelude)
    (compiledStands : before.files.Written options.layout.compiledPath location compiled.stdout)
    (read : before.files.readText options.layout.sourcePath = .ok (source, text))
    (extracted : Rules.extract options.extract compiled.stdout = .ok block)
    (settled : Rules.replace options.prelude.markers block text = .ok text)
    (success : built.success = true) (succeeds : compiled.success = true) :
    ∃ last, run options runner before =
        (.ok ⟨some options.layout.preludePath, some options.layout.compiledPath,
          options.layout.sourcePath, block.lineCount, false⟩, last) ∧
      Did before last (artifactEffects options prelude compiled.stdout) ∧
      last.files = before.files := by
  obtain ⟨last, taken, intact⟩ := exists_takeAll_splice_earlier answers builds same preludeStands
    compiledStands success succeeds
  have did : Did before last (artifactEffects options prelude compiled.stdout) :=
    takeAll_did (List.prefix_refl _) taken []
  rw [← intact] at read
  have spliced := splice_of_replace extracted (SourceUnit.load_eq_ok_iff.mpr ⟨source, read⟩) settled
  exact ⟨last, run_eq_ok_iff.mpr ⟨_, last, _, taken, spliced, rfl⟩, did, intact⟩

/-! ## The second refresh -/

/-- A refresh that is repeated makes the same prelude from both trees. -/
theorem Repeats.prelude_eq {made remade : Workspace σ} {prelude other : Text}
    (repeats : Repeats options second before after again report compiled.stdout)
    (answers : Answers options first before built compiled)
    (done : run options first before = (.ok report, after))
    (answersAgain : Answers options second again built compiled)
    (builds : buildPrelude options before = (.ok prelude, made))
    (rebuilds : buildPrelude options again = (.ok other, remade)) : prelude = other := by
  obtain ⟨written, more, last, did, ran, didAgain, -⟩ := repeats
  obtain ⟨start⟩ := nonempty_refreshed answers done
  obtain ⟨later⟩ := nonempty_refreshed answersAgain ran
  have here : written = start.prelude :=
    (Event.wrote.inj (List.head_eq_of_cons_eq (did.unique start.did))).2
  have there : written = later.prelude :=
    (Event.wrote.inj (List.head_eq_of_cons_eq (didAgain.unique later.did))).2
  have made : start.prelude = prelude :=
    Except.ok.inj (Prod.mk.inj (start.builds.symm.trans builds)).1
  have remade : later.prelude = other :=
    Except.ok.inj (Prod.mk.inj (later.builds.symm.trans rebuilds)).1
  rw [← made, ← remade, ← here, ← there]

omit [PatternLibrary] in
/-- The artifacts and the source stand where they have been written, when these are three files, and
the source that is spliced is the one that was there before. -/
theorem written_of_apart {files between reached after : FileSystem} {path other third : Path}
    {source location : Location} {made translated text original spliced : Text}
    (writes : files.writeArtifact path made = (.ok (), between))
    (stores : between.writeArtifact other translated = (.ok (), reached))
    (keepsLast : FileSystem.Keeps [source] reached after)
    (read : files.readText third = .ok (location, text))
    (readLate : reached.readText third = .ok (source, original))
    (readAgain : after.readText third = .ok (source, spliced))
    (artifacts : after.Apart path other) (first : after.Apart path third)
    (second : after.Apart other third) :
    ∃ prelude output, FileSystem.Keeps [prelude, output, source] files after ∧
      after.Written path prelude made ∧ after.Written other output translated ∧
      location = source ∧ text = original := by
  obtain ⟨prelude, keepsFirst, preludeStands⟩ := FileSystem.exists_of_writeArtifact writes
  obtain ⟨output, keepsSecond, outputStands⟩ := FileSystem.exists_of_writeArtifact stores
  have keeps := keepsFirst.trans keepsSecond
  have preludeLeads := (keepsSecond.trans keepsLast).place?
    (FileSystem.place?_of_readText preludeStands.readText)
  have outputLeads := keepsLast.place? (FileSystem.place?_of_readText outputStands.readText)
  have sourceLeads := FileSystem.place?_of_readText readAgain
  have preludeOutput : prelude ≠ output := by
    rintro rfl
    exact artifacts _ preludeLeads outputLeads
  have preludeSource : prelude ≠ source := by
    rintro rfl
    exact first _ preludeLeads sourceLeads
  have outputSource : output ≠ source := by
    rintro rfl
    exact second _ outputLeads sourceLeads
  have leads := keeps.place? (FileSystem.place?_of_readText read)
  have here : source = location :=
    Option.some.inj ((FileSystem.place?_of_readText readLate).symm.trans leads)
  subst here
  have late := keeps.readText read (by simp [preludeSource.symm, outputSource.symm])
  refine ⟨prelude, output, keeps.trans keepsLast, ?_, ?_, rfl, ?_⟩
  · exact preludeStands.keep (keepsSecond.trans keepsLast) (by simp [preludeOutput, preludeSource])
  · exact outputStands.keep keepsLast (by simp [outputSource])
  · exact (Prod.mk.inj (Except.ok.inj (late.symm.trans readLate))).2

/-- When the commands change no file and give the same outputs, a second refresh repeats the first.
The block must not close its region, the artifacts must be files of their own, and no path at which
a module is looked for may have come to name a file. -/
theorem repeats_of_run (starting : options.prelude.markers.rulesStart ≠ [])
    (closing : options.prelude.markers.rulesEnd ≠ [])
    (answers : Answers options first before built compiled)
    (done : run options first before = (.ok report, after))
    (inert : ∀ block, Rules.extract options.extract compiled.stdout = .ok block →
      ∀ row ∈ lines block.text, trim row ≠ options.prelude.markers.rulesEnd)
    (own : OwnArtifacts options before.files after.files)
    (known : ∀ unit, Included options before.files unit → ∀ path, Modules.IsCandidate unit path →
      after.files.isFile path = true → before.files.isFile path = true)
    (same : again.files = after.files)
    (answersAgain : Answers options second again built compiled) :
    Repeats options second before after again report compiled.stdout := by
  obtain ⟨start⟩ := nonempty_refreshed answers done
  have harmless := inert start.block start.extracted
  obtain ⟨location, text, stripped, _, _, read, strips, -⟩ := buildPrelude_eq_ok_iff.mp start.builds
  have root : Included options before.files ⟨options.layout.sourcePath, stripped⟩ :=
    ⟨text, stripped, SourceUnit.load_eq_ok_iff.mpr ⟨location, read⟩, strips, .refl⟩
  obtain ⟨place, output, keeps, preludeStands, outputStands, rfl, rfl⟩ :=
    written_of_apart (files_of_buildPrelude start.builds ▸ start.writes) start.stores start.keeps
      read start.read start.readAgain own.artifacts (own.prelude _ root) (own.compiled _ root)
  -- No unit of the prelude but the source has been written.
  have apart : ∀ unit, Included options before.files unit →
      ∀ written ∈ [place, output, start.source],
        before.files.place? unit.path = some written → written = start.source := by
    intro unit included written member stood
    have leads := keeps.place? stood
    simp only [List.mem_cons, List.not_mem_nil, or_false] at member
    rcases member with rfl | rfl | rfl
    · exact absurd leads
        (own.prelude _ included _ (FileSystem.place?_of_readText preludeStands.readText))
    · exact absurd leads
        (own.compiled _ included _ (FileSystem.place?_of_readText outputStands.readText))
    · rfl
  have readAgain := start.readAgain
  rw [← same] at keeps readAgain preludeStands outputStands known
  obtain ⟨_, rebuilds, untouched⟩ := exists_buildPrelude_of_keeps start.builds read keeps readAgain
    (Rules.strip_trim_replace starting closing harmless start.replaced) known apart
  obtain ⟨last, ran, did, intact⟩ := exists_run_of_written answersAgain rebuilds untouched
    preludeStands outputStands readAgain start.extracted
    (Rules.replace_replace closing harmless start.replaced) start.success start.succeeds
  refine ⟨start.prelude, start.more, last, start.did, ?_, did, intact⟩
  rw [start.reported]
  exact ran

end

/-! ### A link on the way to a module

A project with one module, which is looked for behind a link first. The link leads through a
directory that is not there, unless an artifact is written into it. -/

/-- A source with a module, and a link to another file for it. -/
def linkedProject : FileSystem where
  entries :=
    [(["a".toList], .file (.text "mod m;\n// RULES START\n// RULES END".toList) false),
      (["m.rs".toList], .file (.text ['f']) false), (["m".toList], .link ⟨"t/../n".toList⟩),
      (["n".toList], .directory), (["n".toList, "mod.rs".toList], .file (.text ['g']) false)]
  workingDirectory := []

def linkedOptions (compiled : Path) : Options where
  layout := ⟨⟨['.']⟩, ⟨['a']⟩, ⟨['p']⟩, compiled, ⟨['g']⟩⟩

def besideOptions : Options := linkedOptions ⟨"c".toList⟩

def belowOptions : Options := linkedOptions ⟨"t/c".toList⟩

def splicedSource : Text :=
  "mod m;\n// RULES START\n\nrule!( Grammar <- y\n\n// RULES END".toList

/-- The prelude when the module of the source, which has one character, is inlined. -/
def inlinedPrelude (c : Char) : Text :=
  Package.wrap none ['m', 'o', 'd', ' ', 'm', ' ', '{', '\n', ' ', ' ', c, '\n', '}']

/-- The project after a refresh, which has put the output among the entries. -/
def refreshedProject (output : List (Location × Entry)) : FileSystem where
  entries :=
    [(["a".toList], .file (.text splicedSource) false),
      (["m.rs".toList], .file (.text ['f']) false), (["m".toList], .link ⟨"t/../n".toList⟩),
      (["n".toList], .directory), (["n".toList, "mod.rs".toList], .file (.text ['g']) false),
      (["p".toList], .file (.text (inlinedPrelude 'f')) false)] ++ output
  workingDirectory := []

theorem exists_run_besideOptions :
    letI := PatternLibrary.lenient
    ∃ after, run besideOptions quietRunner ⟨linkedProject, 0, []⟩ =
        (.ok ⟨some ⟨"./p".toList⟩, some ⟨"./c".toList⟩, ⟨"./a".toList⟩, 1, true⟩, after) ∧
        after.files = refreshedProject [([['c']], .file (.text quietOutput.stdout) false)] :=
  ⟨_, Prod.ext (by decide +kernel) rfl, by decide +kernel⟩

theorem exists_run_belowOptions :
    letI := PatternLibrary.lenient
    ∃ after, run belowOptions quietRunner ⟨linkedProject, 0, []⟩ =
        (.ok ⟨some ⟨"./p".toList⟩, some ⟨"./t/c".toList⟩, ⟨"./a".toList⟩, 1, true⟩, after) ∧
        after.files = refreshedProject
          [([['t']], .directory), ([['t'], ['c']], .file (.text quietOutput.stdout) false)] :=
  ⟨_, Prod.ext (by decide +kernel) rfl, by decide +kernel⟩

/-- The source declares one module, and the module none. -/
theorem name_eq_of_parse? {text line : Text} {number : Nat} {declaration : Declaration}
    (known : text = "mod m;".toList ∨ text = ['f']) (listed : line ∈ lines text)
    (declared : Declaration.parse? line number = some declaration) :
    text = "mod m;".toList ∧ declaration.name = ['m'] := by
  rcases known with rfl | rfl
  · cases List.mem_singleton.mp listed
    obtain ⟨again, renumbered, name⟩ := Declaration.exists_parse?_renumbered declared 1
    have parsed : Declaration.parse? "mod m;".toList 1 = some ⟨[], [], none, ['m'], 1⟩ := by
      decide +kernel
    cases parsed.symm.trans renumbered
    exact ⟨rfl, name.symm⟩
  · cases List.mem_singleton.mp listed
    obtain ⟨again, renumbered, -⟩ := Declaration.exists_parse?_renumbered declared 1
    have parsed : Declaration.parse? ['f'] 1 = none := by decide +kernel
    cases parsed.symm.trans renumbered

theorem included_linkedProject {compiled : Path} {unit : SourceUnit}
    (included : Included (linkedOptions compiled) linkedProject unit) :
    unit = ⟨⟨"./a".toList⟩, "mod m;".toList⟩ ∨ unit = ⟨⟨"./m.rs".toList⟩, ['f']⟩ := by
  obtain ⟨text, stripped, loaded, strips, reached⟩ := included
  have source : SourceUnit.load linkedProject ⟨"./a".toList⟩ =
      .ok ⟨⟨"./a".toList⟩, "mod m;\n// RULES START\n// RULES END".toList⟩ := by decide +kernel
  cases source.symm.trans loaded
  have bare : Rules.strip {} (trim "mod m;\n// RULES START\n// RULES END".toList) =
      .ok "mod m;".toList := by decide +kernel
  cases bare.symm.trans strips
  induction reached with
  | refl => exact .inl rfl
  | tail _ step ih =>
    obtain ⟨listed, declared, found, read⟩ := step
    have names := name_eq_of_parse? (ih.imp (congrArg SourceUnit.text) (congrArg SourceUnit.text))
      listed declared
    rcases ih with rfl | rfl
    · rw [names.2] at found
      have file : Modules.resolve linkedProject
          (SourceUnit.directory ⟨⟨"./a".toList⟩, "mod m;".toList⟩) ['m'] ⟨"./a".toList⟩ =
            .ok ⟨"./m.rs".toList⟩ := by
        decide +kernel
      cases file.symm.trans found
      have module : SourceUnit.load linkedProject ⟨"./m.rs".toList⟩ =
          .ok ⟨⟨"./m.rs".toList⟩, ['f']⟩ := by
        decide +kernel
      cases module.symm.trans read
      exact .inr rfl
    · cases names.1

theorem isCandidate_linkedProject {compiled path : Path} {unit : SourceUnit}
    (included : Included (linkedOptions compiled) linkedProject unit)
    (candidate : Modules.IsCandidate unit path) :
    path = ⟨"./m/mod.rs".toList⟩ ∨ path = ⟨"./m.rs".toList⟩ := by
  obtain ⟨line, listed, number, declaration, declared, member⟩ := candidate
  have known := included_linkedProject included
  have names := name_eq_of_parse?
    (known.imp (congrArg SourceUnit.text) (congrArg SourceUnit.text)) listed declared
  rw [names.2] at member
  rcases known with rfl | rfl
  · have places : Modules.candidates
        (SourceUnit.directory ⟨⟨"./a".toList⟩, "mod m;".toList⟩) ['m'] =
          [⟨"./m/mod.rs".toList⟩, ⟨"./m.rs".toList⟩] := by
      decide +kernel
    rw [places] at member
    simpa using member
  · cases names.1

/-- The paths to look at when the artifacts are to be no files of the tree, and at no place for a
module. -/
theorem away_linkedProject {compiled : Path} {files : FileSystem}
    (prelude : ∀ path ∈ [(linkedOptions compiled).layout.compiledPath, ⟨"./a".toList⟩,
      ⟨"./m.rs".toList⟩, ⟨"./m/mod.rs".toList⟩], files.Apart ⟨"./p".toList⟩ path)
    (output : ∀ path ∈ [⟨"./a".toList⟩, ⟨"./m.rs".toList⟩, ⟨"./m/mod.rs".toList⟩],
      files.Apart (linkedOptions compiled).layout.compiledPath path) :
    OwnArtifacts (linkedOptions compiled) linkedProject files ∧
      SparesCandidates (linkedOptions compiled) linkedProject files := by
  have units : ∀ unit, Included (linkedOptions compiled) linkedProject unit →
      unit.path = ⟨"./a".toList⟩ ∨ unit.path = ⟨"./m.rs".toList⟩ := fun unit included =>
    (included_linkedProject included).imp (congrArg SourceUnit.path) (congrArg SourceUnit.path)
  refine ⟨⟨prelude _ (by simp), ?_, ?_⟩, ?_⟩
  · exact fun unit included => prelude _ (by rcases units unit included with h | h <;> simp [h])
  · exact fun unit included => output _ (by rcases units unit included with h | h <;> simp [h])
  · intro unit included path candidate
    rcases isCandidate_linkedProject included candidate with rfl | rfl
    · exact ⟨prelude _ (by simp), output _ (by simp)⟩
    · exact ⟨prelude _ (by simp), output _ (by simp)⟩

theorem answers_quietRunner [PatternLibrary] (options : Options) (before : Workspace Nat) :
    Answers options quietRunner before quietOutput quietOutput :=
  fun _ reached _ => ⟨reached.agent + 1, reached.agent + 2, rfl, rfl⟩

theorem inert_quietOutput (compiled : Path) : ∀ block,
    Rules.extract (linkedOptions compiled).extract quietOutput.stdout = .ok block →
      ∀ row ∈ lines block.text, trim row ≠ (linkedOptions compiled).prelude.markers.rulesEnd := by
  have extracted : Rules.extract {} quietOutput.stdout = .ok ⟨"rule!( Grammar <- y".toList⟩ := by
    decide +kernel
  intro block found
  cases extracted.symm.trans found
  change ∀ row ∈ lines "rule!( Grammar <- y".toList, trim row ≠ "// RULES END".toList
  decide

/-- The link goes on leading nowhere when the output goes beside the source. -/
theorem repeats_of_run_linkedProject :
    letI := PatternLibrary.lenient
    ∃ report after, run besideOptions quietRunner ⟨linkedProject, 0, []⟩ = (.ok report, after) ∧
      Repeats besideOptions quietRunner ⟨linkedProject, 0, []⟩ after after report
        quietOutput.stdout := by
  let := PatternLibrary.lenient
  obtain ⟨after, done, left⟩ := exists_run_besideOptions
  have own : OwnArtifacts besideOptions linkedProject after.files := by
    rw [left]
    exact (away_linkedProject (of_decide_eq_true (by decide +kernel))
      (of_decide_eq_true (by decide +kernel))).1
  refine ⟨_, after, done, repeats_of_run (by decide) (by decide) (answers_quietRunner _ _) done
    (inert_quietOutput _) own ?_ rfl (answers_quietRunner _ _)⟩
  intro unit included path candidate now
  rcases isCandidate_linkedProject included candidate with rfl | rfl
  · have nowhere : (refreshedProject [([['c']], .file (.text quietOutput.stdout) false)]).isFile
        ⟨"./m/mod.rs".toList⟩ = false := by
      decide +kernel
    rw [left] at now
    cases nowhere.symm.trans now
  · decide +kernel

/-- When a directory has been made for the output, the link leads to the other file. -/
theorem buildPrelude_belowOptions :
    letI := PatternLibrary.lenient
    (buildPrelude belowOptions (⟨linkedProject, 0, []⟩ : Workspace Nat)).1 =
        .ok (inlinedPrelude 'f') ∧
      (buildPrelude belowOptions (run belowOptions quietRunner ⟨linkedProject, 0, []⟩).2).1 =
        .ok (inlinedPrelude 'g') := by
  decide +kernel

/-- The artifacts are files of their own and at no place for a module, and still the second refresh
makes another prelude: the link leads to another file when the output goes below it. -/
theorem not_repeats_of_run_linkedProject :
    letI := PatternLibrary.lenient
    ∃ report after, run belowOptions quietRunner ⟨linkedProject, 0, []⟩ = (.ok report, after) ∧
      belowOptions.prelude.markers.rulesStart ≠ [] ∧
      belowOptions.prelude.markers.rulesEnd ≠ [] ∧
      Answers belowOptions quietRunner ⟨linkedProject, 0, []⟩ quietOutput quietOutput ∧
      Answers belowOptions quietRunner after quietOutput quietOutput ∧
      (∀ block, Rules.extract belowOptions.extract quietOutput.stdout = .ok block →
        ∀ row ∈ lines block.text, trim row ≠ belowOptions.prelude.markers.rulesEnd) ∧
      (∀ files ∈ [linkedProject, after.files], OwnArtifacts belowOptions linkedProject files ∧
        SparesCandidates belowOptions linkedProject files) ∧
      ¬ Repeats belowOptions quietRunner ⟨linkedProject, 0, []⟩ after after report
        quietOutput.stdout := by
  let := PatternLibrary.lenient
  obtain ⟨after, done, left⟩ := exists_run_belowOptions
  obtain ⟨builds, rebuilds⟩ := buildPrelude_belowOptions
  rw [done] at rebuilds
  refine ⟨_, after, done, by decide, by decide, answers_quietRunner _ _, answers_quietRunner _ _,
    inert_quietOutput _, ?_, fun repeats => ?_⟩
  · rw [left]
    simp only [List.forall_mem_cons, List.not_mem_nil, false_implies, implies_true, and_true]
    exact ⟨away_linkedProject (of_decide_eq_true (by decide +kernel))
      (of_decide_eq_true (by decide +kernel)), away_linkedProject
      (of_decide_eq_true (by decide +kernel)) (of_decide_eq_true (by decide +kernel))⟩
  · have same := repeats.prelude_eq (answers_quietRunner _ _) done (answers_quietRunner _ _)
      (Prod.ext builds rfl) (Prod.ext rebuilds rfl)
    exact absurd same (by decide)

end Refresh

end ParserRefresh
