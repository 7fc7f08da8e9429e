import ParserRefresh.Proofs.Blame
import ParserRefresh.Proofs.WrittenFiles

/-! # A refresh, step by step

A refresh takes its steps in a fixed order and ends at the first that fails. Its effects, which are
the commands that it asks for and the files that it writes, are those of a plan of five, cut off at
the step it ends in. The plan does not depend on what the commands do, only the texts in it do. -/

namespace ParserRefresh

/-! ## Effects -/

def Event.isEffect : Event → Bool
  | .warned _ => false
  | .invoked _ | .wrote .. => true

/-- What has been done between two states of a workspace, warnings aside. -/
def Did {σ : Type} (before after : Workspace σ) (effects : List Event) : Prop :=
  ∃ events, after.journal = before.journal ++ events ∧ events.filter Event.isEffect = effects

namespace Did

variable {σ : Type} {before between after : Workspace σ} {effects later : List Event}

theorem nothing (same : after.journal = before.journal) : Did before after [] :=
  ⟨[], by rw [same, List.append_nil], rfl⟩

theorem trans (start : Did before between effects) (rest : Did between after later) :
    Did before after (effects ++ later) := by
  obtain ⟨events, journal, rfl⟩ := start
  obtain ⟨more, laterJournal, rfl⟩ := rest
  exact ⟨events ++ more, by rw [laterJournal, journal, List.append_assoc], List.filter_append ..⟩

theorem one {event : Event} (effect : event.isEffect = true)
    (noted : after.journal = before.journal ++ [event]) : Did before after [event] :=
  ⟨[event], noted, List.filter_singleton ▸ by rw [effect]; rfl⟩

theorem unique (did : Did before after effects) (same : Did before after later) :
    effects = later := by
  obtain ⟨events, journal, rfl⟩ := did
  obtain ⟨others, again, rfl⟩ := same
  rw [List.append_cancel_left (journal.symm.trans again)]

theorem warned {warnings : List Warning}
    (noted : after.journal = before.journal ++ warnings.map Event.warned) :
    Did before after [] := by
  refine ⟨warnings.map Event.warned, noted, ?_⟩
  rw [List.filter_eq_nil_iff]
  intro event member
  obtain ⟨warning, -, rfl⟩ := List.mem_map.mp member
  exact Bool.false_ne_true

end Did

namespace Action

variable {σ : Type}

theorem writeArtifact_ok {path : Path} {text : Text} {before after : Workspace σ}
    (written : writeArtifact path text before = (.ok (), after)) :
    before.files.writeArtifact path text = (.ok (), after.files) ∧
      Did before after [.wrote path text] := by
  unfold writeArtifact at written
  split at written
  · next files done =>
    cases written
    exact ⟨done, .one rfl rfl⟩
  · cases written

theorem writeArtifact_error {path : Path} {text : Text} {before after : Workspace σ} {fault : Fault}
    (failed : writeArtifact path text before = (.error fault, after)) :
    Did before after [] ∧ before.files.MadeDirectories after.files := by
  unfold writeArtifact at failed
  split at failed
  · cases failed
  · next stopped =>
    cases failed
    exact ⟨.nothing rfl, FileSystem.madeDirectories_of_writeArtifact_error stopped⟩

/-- A command is on record, whatever comes of it. -/
theorem execute_did {runner : Runner σ} {invocation : Invocation} {before after : Workspace σ}
    {outcome : Except Fault CommandOutput}
    (ran : execute runner invocation before = (outcome, after)) :
    Did before after [.invoked invocation] := by
  rw [execute, bind_apply] at ran
  unfold invoke at ran
  generalize runner invocation before.agent before.files = called at ran
  obtain ⟨fault | output, agent, files⟩ := called
  · cases ran
    exact .one rfl rfl
  · obtain ⟨-, rfl⟩ := ofExcept_eq_iff.mp ran
    exact .one rfl rfl

end Action

/-! ## Steps -/

namespace Step

def all : List Step := [.buildPrelude, .writePrelude, .rebuild, .compile, .writeCompiled, .splice]

def earlier (step : Step) : List Step := all.takeWhile (· ≠ step)

/-- How many effects a refresh has had that ends in a step with a fault. A command that fails has
been asked for; a file that cannot be written is not written. -/
def effectCount : Step → Nat
  | .buildPrelude | .writePrelude => 0
  | .rebuild => 2
  | .compile | .writeCompiled => 3
  | .splice => 4

theorem nodup_all : all.Nodup := by decide

theorem earlier_of_append {steps later : List Step} {step : Step}
    (whole : steps ++ step :: later = all) : steps = step.earlier := by
  have apart : ∀ other ∈ steps, decide (other ≠ step) = true := by
    have nodup := nodup_all
    rw [← whole] at nodup
    intro other member
    rw [decide_eq_true_eq]
    exact (List.nodup_append.mp nodup).2.2 other member step List.mem_cons_self
  rw [earlier, ← whole, List.takeWhile_append_of_pos apart]
  simp

theorem earlier_of_prefix {steps : List Step} {step last : Step}
    (initial : steps ++ [step] <+: last.earlier) : steps = step.earlier ∧ step ≠ last := by
  constructor
  · obtain ⟨later, whole⟩ := initial.trans (List.takeWhile_prefix _)
    rw [List.append_assoc] at whole
    exact earlier_of_append whole
  · have member : step ∈ last.earlier := initial.subset (by simp)
    rw [earlier] at member
    have different := List.mem_takeWhile_imp member
    exact of_decide_eq_true different

theorem earlier_prefix (step : Step) : step.earlier <+: splice.earlier := by
  cases step <;> decide

end Step

namespace Refresh

variable {σ : Type} {options : Options} {before after : Workspace σ} {fault : Fault}
  {report : Report}

/-! ## What a splice does -/

/-- A splice that succeeds has put what it extracted into the source that it read. -/
theorem exists_of_splice_ok {compiled : Text}
    (done : splice options compiled before = (.ok report, after)) :
    ∃ block original spliced, Rules.extract options.extract compiled = .ok block ∧
      SourceUnit.load before.files options.layout.sourcePath = .ok original ∧
      Rules.replace options.prelude.markers block original.text = .ok spliced ∧
      report = ⟨none, none, options.layout.sourcePath, block.lineCount,
        spliced != original.text⟩ ∧
      if spliced = original.text then after = before
      else before.files.writeArtifact options.layout.sourcePath spliced = (.ok (), after.files) ∧
        Did before after [.wrote options.layout.sourcePath spliced] := by
  obtain ⟨block, _, ran, rest⟩ := Action.bind_eq_ok_iff.mp done
  obtain ⟨extracted, rfl⟩ := Action.ofExcept_eq_iff.mp ran
  obtain ⟨original, _, ran, rest⟩ := Action.bind_eq_ok_iff.mp rest
  obtain ⟨loaded, rfl⟩ := Action.load_eq_iff.mp ran
  obtain ⟨spliced, _, ran, rest⟩ := Action.bind_eq_ok_iff.mp rest
  obtain ⟨replaced, rfl⟩ := Action.ofExcept_eq_iff.mp ran
  dsimp only at rest
  split at rest
  · next changed =>
    obtain ⟨_, _, written, rest⟩ := Action.bind_eq_ok_iff.mp rest
    obtain ⟨same, rfl⟩ := Action.pure_eq_ok_iff.mp rest
    refine ⟨block, original, spliced, extracted, loaded, replaced, same.symm, ?_⟩
    rw [if_neg (bne_iff_ne.mp changed)]
    exact Action.writeArtifact_ok written
  · next unchanged =>
    obtain ⟨same, rfl⟩ := Action.pure_eq_ok_iff.mp rest
    refine ⟨block, original, spliced, extracted, loaded, replaced, same.symm, ?_⟩
    rw [if_pos (by simpa using unchanged)]

/-- A splice that fails has written nothing. -/
theorem splice_error {compiled : Text}
    (failed : splice options compiled before = (.error fault, after)) :
    Did before after [] ∧ before.files.MadeDirectories after.files := by
  have same : Did before before [] ∧ before.files.MadeDirectories before.files :=
    ⟨.nothing rfl, .refl _⟩
  rcases Action.bind_eq_error_iff.mp failed with stopped | ⟨block, _, ran, rest⟩
  · obtain ⟨-, rfl⟩ := Action.ofExcept_eq_iff.mp stopped
    exact same
  obtain ⟨-, rfl⟩ := Action.ofExcept_eq_iff.mp ran
  rcases Action.bind_eq_error_iff.mp rest with stopped | ⟨original, _, ran, rest⟩
  · obtain ⟨-, rfl⟩ := Action.load_eq_iff.mp stopped
    exact same
  obtain ⟨-, rfl⟩ := Action.load_eq_iff.mp ran
  rcases Action.bind_eq_error_iff.mp rest with stopped | ⟨spliced, _, ran, rest⟩
  · obtain ⟨-, rfl⟩ := Action.ofExcept_eq_iff.mp stopped
    exact same
  obtain ⟨-, rfl⟩ := Action.ofExcept_eq_iff.mp ran
  dsimp only at rest
  split at rest
  · rcases Action.bind_eq_error_iff.mp rest with stopped | ⟨_, _, -, rest⟩
    · exact Action.writeArtifact_error stopped
    · cases rest
  · cases rest

/-! ## Steps one after the other -/

/-- What is known when some steps have been taken: the texts that are found before they are written,
and what the splice reports. -/
structure Progress where
  prelude : Text
  compiled : Text
  report : Report

def Progress.start (options : Options) : Progress :=
  ⟨[], [], ⟨none, none, options.layout.sourcePath, 0, false⟩⟩

variable [PatternLibrary]

def take (options : Options) (runner : Runner σ) (progress : Progress) : Step → Action σ Progress
  | .buildPrelude => (fun text => { progress with prelude := text }) <$> buildPrelude options
  | .writePrelude =>
    (fun _ => progress) <$> Action.writeArtifact options.layout.preludePath progress.prelude
  | .rebuild => (fun _ => progress) <$> Action.execute runner (buildInvocation options)
  | .compile =>
    (fun output => { progress with compiled := output.stdout }) <$>
      Action.execute runner (compileInvocation options)
  | .writeCompiled =>
    (fun _ => progress) <$> Action.writeArtifact options.layout.compiledPath progress.compiled
  | .splice =>
    (fun report => { progress with report }) <$> splice options progress.compiled

/-- Takes steps one after the other and blames what goes wrong on the step at hand. -/
def takeAll (options : Options) (runner : Runner σ) : List Step → Progress → Action σ Progress
  | [], progress => pure progress
  | step :: later, progress => do
    let progress ← (take options runner progress step).during step
    takeAll options runner later progress

theorem takeAll_append (options : Options) (runner : Runner σ) (steps later : List Step)
    (progress : Progress) :
    takeAll options runner (steps ++ later) progress =
      takeAll options runner steps progress >>= takeAll options runner later := by
  induction steps generalizing progress with
  | nil => rw [List.nil_append, takeAll, pure_bind]
  | cons step steps ih =>
    rw [List.cons_append, takeAll, takeAll, bind_assoc]
    simp only [ih]

def Progress.full (options : Options) (progress : Progress) : Report :=
  { progress.report with
    prelude := some options.layout.preludePath
    compiled := some options.layout.compiledPath }

theorem run_eq_takeAll (options : Options) (runner : Runner σ) :
    run options runner =
      Progress.full options <$> takeAll options runner Step.all (.start options) := by
  simp only [run, Step.all, takeAll, take, Action.during_map]
  simp only [map_eq_pure_bind, bind_assoc, pure_bind, Progress.start, Progress.full]

/-! ## What one step does -/

/-- What a step does when it succeeds and, if it is the splice, changes the source to a text. -/
def effects (options : Options) (progress : Progress) (spliced : Text) : Step → List Event
  | .buildPrelude => []
  | .writePrelude => [.wrote options.layout.preludePath progress.prelude]
  | .rebuild => [.invoked (buildInvocation options)]
  | .compile => [.invoked (compileInvocation options)]
  | .writeCompiled => [.wrote options.layout.compiledPath progress.compiled]
  | .splice => [.wrote options.layout.sourcePath spliced]

/-- What a step does when it fails. -/
def attempted (options : Options) : Step → List Event
  | .rebuild => [.invoked (buildInvocation options)]
  | .compile => [.invoked (compileInvocation options)]
  | .buildPrelude | .writePrelude | .writeCompiled | .splice => []

/-- The effects of a refresh that changes the source. -/
def plan (options : Options) (progress : Progress) (spliced : Text) : List Event :=
  [.wrote options.layout.preludePath progress.prelude,
    .invoked (buildInvocation options),
    .invoked (compileInvocation options),
    .wrote options.layout.compiledPath progress.compiled,
    .wrote options.layout.sourcePath spliced]

variable {runner : Runner σ} {progress further : Progress} {reached : Workspace σ} {step : Step}

/-- Making the prelude gives warnings and does nothing else. -/
theorem exists_warnings_of_buildPrelude {outcome : Except Fault Text}
    (ended : buildPrelude options before = (outcome, after)) :
    ∃ warnings : List Warning,
      after = { before with journal := before.journal ++ warnings.map Event.warned } := by
  have unchanged : before = { before with journal := before.journal ++ [].map Event.warned } := by
    simp
  unfold buildPrelude Action.load at ended
  simp only [Action.bind_apply, Action.files, Action.ofExcept] at ended
  cases loaded : SourceUnit.load before.files options.layout.sourcePath with
  | error fault =>
    rw [loaded] at ended
    cases ended
    exact ⟨[], unchanged⟩
  | ok unit =>
    rw [loaded] at ended
    dsimp only at ended
    cases built : prelude before.files unit.path options.prelude with
    | error fault =>
      rw [built] at ended
      cases ended
      exact ⟨[], unchanged⟩
    | ok pass =>
      rw [built] at ended
      cases ended
      exact ⟨(pass (Text.trim unit.text)).warnings, rfl⟩

theorem take_did (other : step ≠ .splice)
    (taken : take options runner progress step before = (.ok further, after)) (spliced : Text) :
    Did before after (effects options further spliced step) := by
  cases step with
  | buildPrelude =>
    obtain ⟨text, built, rfl⟩ := Action.map_eq_ok_iff.mp taken
    obtain ⟨warnings, rfl⟩ := exists_warnings_of_buildPrelude built
    exact .warned rfl
  | writePrelude =>
    obtain ⟨_, written, rfl⟩ := Action.map_eq_ok_iff.mp taken
    exact (Action.writeArtifact_ok written).2
  | rebuild =>
    obtain ⟨output, ran, rfl⟩ := Action.map_eq_ok_iff.mp taken
    exact Action.execute_did ran
  | compile =>
    obtain ⟨output, ran, rfl⟩ := Action.map_eq_ok_iff.mp taken
    exact Action.execute_did ran
  | writeCompiled =>
    obtain ⟨_, written, rfl⟩ := Action.map_eq_ok_iff.mp taken
    exact (Action.writeArtifact_ok written).2
  | splice => exact absurd rfl other

/-- A step that fails has asked for its command; a step without one has made directories at
most. -/
theorem take_error_did
    (failed : take options runner progress step before = (.error fault, after)) :
    Did before after (attempted options step) ∧
      (attempted options step = [] → before.files.MadeDirectories after.files) := by
  cases step with
  | buildPrelude =>
    obtain ⟨warnings, rfl⟩ :=
      exists_warnings_of_buildPrelude (Action.map_eq_error_iff.mp failed)
    exact ⟨.warned rfl, fun _ => .refl _⟩
  | writePrelude =>
    have ended := Action.writeArtifact_error (Action.map_eq_error_iff.mp failed)
    exact ⟨ended.1, fun _ => ended.2⟩
  | rebuild =>
    exact ⟨Action.execute_did (Action.map_eq_error_iff.mp failed),
      fun none => absurd none (List.cons_ne_nil _ _)⟩
  | compile =>
    exact ⟨Action.execute_did (Action.map_eq_error_iff.mp failed),
      fun none => absurd none (List.cons_ne_nil _ _)⟩
  | writeCompiled =>
    have ended := Action.writeArtifact_error (Action.map_eq_error_iff.mp failed)
    exact ⟨ended.1, fun _ => ended.2⟩
  | splice =>
    have ended := splice_error (Action.map_eq_error_iff.mp failed)
    exact ⟨ended.1, fun _ => ended.2⟩

/-- No step changes the texts that earlier steps have written. -/
theorem effects_earlier (taken : take options runner progress step before = (.ok further, after))
    (spliced : Text) :
    step.earlier.flatMap (effects options further spliced) =
      step.earlier.flatMap (effects options progress spliced) := by
  cases step with
  | buildPrelude | writePrelude | rebuild | compile | writeCompiled | splice =>
    obtain ⟨_, -, rfl⟩ := Action.map_eq_ok_iff.mp taken
    rfl

theorem take_unblamed (unblamed : runner.Unblamed) (options : Options) (progress : Progress)
    (step : Step) : (take options runner progress step).Unblamed := by
  cases step with
  | buildPrelude => exact (buildPrelude_plain options).unblamed.map _
  | writePrelude => exact (Action.writeArtifact_plain _ _).unblamed.map _
  | rebuild => exact (Action.execute_unblamed unblamed _).map _
  | compile => exact (Action.execute_unblamed unblamed _).map _
  | writeCompiled => exact (Action.writeArtifact_plain _ _).unblamed.map _
  | splice => exact (splice_unblamed options progress.compiled).map _

/-! ## What steps do one after the other -/

/-- The first steps have the effects of the plan, each in its turn. -/
theorem takeAll_did {steps : List Step} (initial : steps <+: Step.splice.earlier)
    (taken : takeAll options runner steps (.start options) before = (.ok progress, after))
    (spliced : Text) : Did before after (steps.flatMap (effects options progress spliced)) := by
  -- The texts of a step are found out before it, so what is known later describes it as well.
  induction steps using List.reverseRecOn generalizing progress after with
  | nil =>
    obtain ⟨-, rfl⟩ := Action.pure_eq_ok_iff.mp taken
    exact .nothing rfl
  | append_singleton steps step ih =>
    obtain ⟨here, other⟩ := Step.earlier_of_prefix initial
    rw [takeAll_append] at taken
    obtain ⟨reached, between, start, rest⟩ := Action.bind_eq_ok_iff.mp taken
    obtain ⟨further, last, stepped, rest⟩ := Action.bind_eq_ok_iff.mp rest
    obtain ⟨rfl, rfl⟩ := Action.pure_eq_ok_iff.mp rest
    have stepTaken := Action.during_eq_ok_iff.mp stepped
    have did := ih ((List.prefix_append _ _).trans initial) start
    rw [here, ← effects_earlier stepTaken, ← here] at did
    rw [List.flatMap_append, List.flatMap_singleton]
    exact did.trans (take_did other stepTaken spliced)

/-- When steps are taken and one of them fails, those before it have been taken, and the fault is
blamed on it. -/
theorem exists_of_takeAll_error {steps : List Step}
    (failed : takeAll options runner steps progress before = (.error fault, after)) :
    ∃ start step later reached between inner, steps = start ++ step :: later ∧
      takeAll options runner start progress before = (.ok reached, between) ∧
      take options runner reached step between = (.error inner, after) ∧
      inner.inStep step = fault := by
  induction steps generalizing progress before with
  | nil => cases failed
  | cons step later ih =>
    rcases Action.bind_eq_error_iff.mp failed with here | ⟨further, between, stepped, rest⟩
    · obtain ⟨inner, stopped, blamed⟩ := Action.during_eq_error_iff.mp here
      exact ⟨[], step, later, progress, before, inner, rfl, rfl, stopped, blamed⟩
    · obtain ⟨start, last, behind, reached, place, inner, rfl, taken, stopped, blamed⟩ := ih rest
      refine ⟨step :: start, last, behind, reached, place, inner, rfl, ?_, stopped, blamed⟩
      exact Action.bind_eq_ok_iff.mpr ⟨further, between, stepped, taken⟩

theorem takeAll_cons_eq_ok_iff {later : List Step} :
    takeAll options runner (step :: later) progress before = (.ok further, after) ↔
      ∃ next between, take options runner progress step before = (.ok next, between) ∧
        takeAll options runner later next between = (.ok further, after) := by
  rw [takeAll, Action.bind_eq_ok_iff]
  simp only [Action.during_eq_ok_iff]

theorem takeAll_nil_eq_ok_iff :
    takeAll options runner [] progress before = (.ok further, after) ↔
      progress = further ∧ before = after := Action.pure_eq_ok_iff

/-- A refresh that succeeds takes the steps before the splice and then splices. -/
theorem run_eq_ok_iff :
    run options runner before = (.ok report, after) ↔
      ∃ progress reached found,
        takeAll options runner Step.splice.earlier (.start options) before =
          (.ok progress, reached) ∧
        splice options progress.compiled reached = (.ok found, after) ∧
        { found with
          prelude := some options.layout.preludePath
          compiled := some options.layout.compiledPath } = report := by
  have whole : Step.all = Step.splice.earlier ++ [.splice] := by decide
  rw [run_eq_takeAll, Action.map_eq_ok_iff, whole, takeAll_append]
  constructor
  · rintro ⟨last, taken, rfl⟩
    obtain ⟨progress, reached, start, rest⟩ := Action.bind_eq_ok_iff.mp taken
    obtain ⟨further, between, stepped, rest⟩ := takeAll_cons_eq_ok_iff.mp rest
    obtain ⟨rfl, rfl⟩ := takeAll_nil_eq_ok_iff.mp rest
    obtain ⟨found, ended, rfl⟩ := Action.map_eq_ok_iff.mp stepped
    exact ⟨progress, reached, found, start, ended, rfl⟩
  · rintro ⟨progress, reached, found, start, ended, rfl⟩
    refine ⟨{ progress with report := found }, ?_, rfl⟩
    refine Action.bind_eq_ok_iff.mpr ⟨progress, reached, start, ?_⟩
    refine takeAll_cons_eq_ok_iff.mpr ⟨_, after, Action.map_eq_ok_iff.mpr ⟨found, ended, rfl⟩, ?_⟩
    exact takeAll_nil_eq_ok_iff.mpr ⟨rfl, rfl⟩

theorem run_of_take_error
    (taken : takeAll options runner step.earlier (.start options) before = (.ok progress, between))
    (failed : take options runner progress step between = (.error fault, after)) :
    run options runner before = (.error (fault.inStep step), after) := by
  obtain ⟨later, whole⟩ : ∃ later, Step.all = step.earlier ++ step :: later := by
    cases step <;> exact ⟨_, rfl⟩
  rw [run_eq_takeAll, Action.map_eq_error_iff, whole, takeAll_append]
  refine Action.bind_eq_error_iff.mpr (.inr ⟨progress, between, taken, ?_⟩)
  exact Action.bind_eq_error_iff.mpr (.inl (Action.during_eq_error_iff.mpr ⟨fault, failed, rfl⟩))

/-! ## How a refresh ends -/

/-- A refresh takes all its steps. The last one reads the source as the steps before have left it,
and writes it when what comes out is different: then the plan is carried out to the end. -/
def Finishes (options : Options) (runner : Runner σ) (before : Workspace σ) (report : Report)
    (after : Workspace σ) : Prop :=
  ∃ progress reached block original spliced,
    takeAll options runner Step.splice.earlier (.start options) before = (.ok progress, reached) ∧
    Rules.extract options.extract progress.compiled = .ok block ∧
    SourceUnit.load reached.files options.layout.sourcePath = .ok original ∧
    Rules.replace options.prelude.markers block original.text = .ok spliced ∧
    report = ⟨some options.layout.preludePath, some options.layout.compiledPath,
      options.layout.sourcePath, block.lineCount, spliced != original.text⟩ ∧
    if spliced = original.text then
      Did before after ((plan options progress spliced).take 4) ∧ after = reached
    else
      Did before after (plan options progress spliced) ∧
        ∃ location, after.files.readText options.layout.sourcePath = .ok (location, spliced)

/-- A step that fails behind all earlier ones has done what the plan says up to the step. -/
theorem did_of_take_error
    (taken : takeAll options runner step.earlier (.start options) before = (.ok progress, reached))
    (stopped : take options runner progress step reached = (.error fault, after))
    (spliced : Text) :
    Did before after ((plan options progress spliced).take step.effectCount) := by
  have did := (takeAll_did step.earlier_prefix taken spliced).trans (take_error_did stopped).1
  cases step <;> exact did

theorem finishes_of_run_ok (done : run options runner before = (.ok report, after)) :
    Finishes options runner before report after := by
  obtain ⟨progress, reached, found, start, ended, rfl⟩ := run_eq_ok_iff.mp done
  obtain ⟨block, original, spliced, extracted, loaded, replaced, rfl, ending⟩ :=
    exists_of_splice_ok ended
  have did := takeAll_did (List.prefix_refl _) start spliced
  refine ⟨progress, reached, block, original, spliced, start, extracted, loaded, replaced, rfl, ?_⟩
  split
  · next same =>
    rw [if_pos same] at ending
    obtain rfl := ending
    exact ⟨did, rfl⟩
  · next changed =>
    rw [if_neg changed] at ending
    obtain ⟨written, last⟩ := ending
    exact ⟨did.trans last, FileSystem.readText_of_writeArtifact written⟩

/-- What has been done is a start of the plan. -/
def Planned (options : Options) (before after : Workspace σ) : Prop :=
  ∃ progress spliced effects, Did before after effects ∧ effects <+: plan options progress spliced

theorem Finishes.planned (finishes : Finishes options runner before report after) :
    Planned options before after := by
  obtain ⟨progress, reached, block, original, spliced, -, -, -, -, -, ending⟩ := finishes
  split at ending
  · exact ⟨progress, spliced, _, ending.1, List.take_prefix _ _⟩
  · exact ⟨progress, spliced, _, ending.1, List.prefix_refl _⟩

/-- Whoever runs the commands and blames whom, what has been done is a start of the plan. -/
theorem planned_of_run (options : Options) (runner : Runner σ) (before : Workspace σ) :
    Planned options before (run options runner before).2 := by
  generalize ended : run options runner before = ending
  obtain ⟨fault | report, after⟩ := ending
  · rw [run_eq_takeAll, Action.map_eq_error_iff] at ended
    obtain ⟨start, step, later, progress, reached, inner, whole, taken, stopped, -⟩ :=
      exists_of_takeAll_error ended
    obtain rfl := Step.earlier_of_append whole.symm
    exact ⟨progress, [], _, did_of_take_error taken stopped [], List.take_prefix _ _⟩
  · exact (finishes_of_run_ok ended).planned

def smallProject : FileSystem where
  entries := [(["a".toList], .file (.text "// RULES START\n// RULES END\nf".toList) false)]
  workingDirectory := []

def smallOptions : Options where
  layout := ⟨⟨['.']⟩, ⟨['a']⟩, ⟨['p']⟩, ⟨['c']⟩, ⟨['g']⟩⟩

def quietOutput : CommandOutput := ⟨"rule!( Grammar <- y\n".toList, [], some 0, true⟩

def quietRunner : Runner Nat := fun _ count files => (.ok quietOutput, count + 1, files)

end Refresh

end ParserRefresh
