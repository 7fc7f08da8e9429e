import ParserRefresh.Proofs.Actions
import ParserRefresh.Proofs.Outcomes
import ParserRefresh.Refresh.Run

/-! # Kinds of faults

A fault is blamed on a step from outside, when the step has ended in it. What a step does by itself
fails with plain causes, except for commands, where it is for the runner to say, and for the rules
that are cut out of an output, where the program may crash. -/

namespace ParserRefresh

/-- An outcome that is a fault only if the fault is of a kind. -/
def FaultsOnly {α : Type} (kind : Fault → Prop) (outcome : Except Fault α) : Prop :=
  ∀ fault, outcome = .error fault → kind fault

/-- An outcome that is no fault blamed on a step. -/
abbrev Unblamed {α : Type} (outcome : Except Fault α) : Prop :=
  FaultsOnly (fun fault => fault.step? = none) outcome

/-- An outcome that is no fault but a cause that nobody is blamed for. -/
abbrev Plain {α : Type} (outcome : Except Fault α) : Prop :=
  FaultsOnly (fun fault => ∃ cause : Cause, fault = cause) outcome

namespace FaultsOnly

variable {α β : Type} {kind : Fault → Prop} {outcome : Except Fault α}

theorem ok (value : α) : FaultsOnly kind (.ok value : Except Fault α) := by
  intro fault failed
  cases failed

theorem error {fault : Fault} (is : kind fault) :
    FaultsOnly kind (.error fault : Except Fault α) := by
  intro other failed
  cases failed
  exact is

theorem map (only : FaultsOnly kind outcome) (f : α → β) : FaultsOnly kind (outcome.map f) :=
  fun fault failed => only fault (map_eq_error_iff.mp failed)

theorem bind (only : FaultsOnly kind outcome) {next : α → Except Fault β}
    (later : ∀ value, FaultsOnly kind (next value)) : FaultsOnly kind (outcome >>= next) := by
  cases outcome with
  | ok value => exact later value
  | error fault => exact .error (only fault rfl)

theorem mapM {items : List α} {f : α → Except Fault β} (each : ∀ item, FaultsOnly kind (f item)) :
    FaultsOnly kind (items.mapM f) := by
  induction items with
  | nil => exact .ok []
  | cons item items ih =>
    rw [List.mapM_cons]
    exact (each item).bind (fun value => ih.bind (fun values => .ok (value :: values)))

end FaultsOnly

theorem Plain.cause {α : Type} (cause : Cause) : Plain (.error cause : Except Fault α) :=
  .error ⟨cause, rfl⟩

theorem Plain.unblamed {α : Type} {outcome : Except Fault α} (plain : Plain outcome) :
    Unblamed outcome := by
  intro fault failed
  obtain ⟨cause, rfl⟩ := plain fault failed
  rfl

theorem Plain.ne_crashed {α : Type} {outcome : Except Fault α} (plain : Plain outcome) :
    outcome ≠ .error .crashed := by
  intro crashed
  obtain ⟨cause, same⟩ := plain _ crashed
  cases same

/-! ## Texts -/

theorem SourceUnit.load_plain (files : FileSystem) (path : Path) :
    Plain (SourceUnit.load files path) := by
  unfold SourceUnit.load
  split
  · exact .ok _
  · exact .cause _

theorem Rules.strip_plain (markers : Markers) (text : Text) : Plain (Rules.strip markers text) := by
  unfold Rules.strip
  split
  · exact .ok _
  · exact .cause _

theorem Rules.replace_plain (markers : Markers) (block : RuleBlock) (original : Text) :
    Plain (Rules.replace markers block original) := by
  unfold Rules.replace
  split
  · exact .cause _
  · split
    · exact .cause _
    · exact .ok _

theorem Rules.extract_unblamed (options : ExtractOptions) (output : Text) :
    Unblamed (Rules.extract options output) := by
  have cut : ∀ width line, Unblamed (Rules.cutIndent width line) := by
    intro width line
    unfold Rules.cutIndent
    split
    · exact .ok _
    · exact .error rfl
  unfold Rules.extract
  split
  · exact .error rfl
  · split
    · exact (FaultsOnly.mapM (cut _)).map _
    · exact .ok _

theorem Modules.resolve_plain (files : FileSystem) (directory declaredIn : Path) (name : Text) :
    Plain (Modules.resolve files directory name declaredIn) := by
  unfold Modules.resolve
  split
  · exact .ok _
  · exact .cause _

theorem Modules.inlineLines_plain (files : FileSystem) (unit : Text) (way : List Path)
    (path : Path) (number : Nat) (rows : List Text) :
    Plain (Modules.inlineLines files unit way path number rows) := by
  fun_induction Modules.inlineLines files unit way path number rows with
  | case1 => exact .ok _
  | case2 way path number line rest undeclared ih => exact ih.map _
  | case3 way path number line rest declaration declared fault missing =>
    exact .error (Modules.resolve_plain _ _ _ _ _ missing)
  | case4 => exact .cause _
  | case5 => exact .cause _
  | case6 way path number line rest declaration declared file found location inner read _ new fault
      failed ih =>
    exact .error (ih _ failed)
  | case7 way path number line rest declaration declared file found location inner read identity
      new body inlined ihBody =>
    rename_i ih
    exact ih.map _

theorem Tests.strip_plain (sentinel text : Text) : Plain (Tests.strip sentinel text).result := by
  unfold Tests.strip
  dsimp only
  split
  · exact .ok _
  · exact .cause _

/-! ## Passes -/

namespace Pass

def Plain (pass : Pass) : Prop := ∀ text, ParserRefresh.Plain (pass text).result

theorem Plain.and {first second : Pass} (start : first.Plain) (later : second.Plain) :
    (first.and second).Plain := by
  intro text
  unfold Pass.and Attempt.andThen
  cases done : (first text).result with
  | ok between => exact later between
  | error fault => exact .error (start text fault done)

theorem ofFunction_plain (f : Text → Text) : (ofFunction f).Plain := fun _ => .ok _

theorem stripCrateAttributes_plain [PatternLibrary] (names : List Text) :
    ParserRefresh.Plain (stripCrateAttributes names) ∧
      ∀ pass, stripCrateAttributes names = .ok pass → pass.Plain := by
  unfold stripCrateAttributes CrateAttributes.ofNames
  split
  · exact ⟨.ok _, fun pass built => by cases built; exact fun _ => .ok _⟩
  · split
    · exact ⟨.ok _, fun pass built => by cases built; exact ofFunction_plain _⟩
    · exact ⟨.cause _, fun pass built => by cases built⟩

end Pass

/-- Building and running the passes that make the prelude fails with plain causes only. -/
theorem prelude_plain [PatternLibrary] (files : FileSystem) (path : Path)
    (options : PreludeOptions) :
    Plain (prelude files path options) ∧
      ∀ pass, prelude files path options = .ok pass → pass.Plain := by
  obtain ⟨building, running⟩ := Pass.stripCrateAttributes_plain options.crateAttributes
  refine ⟨(building.map _).map _, ?_⟩
  intro pass built
  obtain ⟨flat, flattened, rfl⟩ := map_eq_ok_iff.mp built
  obtain ⟨attributes, attributesBuilt, rfl⟩ := map_eq_ok_iff.mp flattened
  have rules : (Pass.stripRules options.markers).Plain := Rules.strip_plain options.markers
  have modules : (Pass.inlineModules files options.indentUnit path).Plain :=
    fun text => (Modules.inlineLines_plain _ _ _ _ _ _).map _
  have tests : (Pass.stripTests options.markers.testSentinel).Plain := Tests.strip_plain _
  have packaged : (Pass.package options.header).Plain := fun _ => .ok _
  exact (((((rules.and modules).and tests).and (Pass.ofFunction_plain _)).and
    (running attributes attributesBuilt)).and (Pass.ofFunction_plain _)).and packaged

/-! ## Actions -/

/-- A runner that blames no step for a command that cannot be run. -/
def Runner.Unblamed {σ : Type} (runner : Runner σ) : Prop :=
  ∀ invocation agent files, ParserRefresh.Unblamed (runner invocation agent files).1

namespace Action

variable {σ α β : Type} {kind : Fault → Prop}

def FaultsOnly (kind : Fault → Prop) (action : Action σ α) : Prop :=
  ∀ workspace, ParserRefresh.FaultsOnly kind (action workspace).1

abbrev Unblamed (action : Action σ α) : Prop := action.FaultsOnly (fun fault => fault.step? = none)

abbrev Plain (action : Action σ α) : Prop :=
  action.FaultsOnly (fun fault => ∃ cause : Cause, fault = cause)

theorem Plain.unblamed {action : Action σ α} (plain : action.Plain) : action.Unblamed :=
  fun workspace => ParserRefresh.Plain.unblamed (plain workspace)

theorem FaultsOnly.bind {action : Action σ α} {next : α → Action σ β}
    (start : action.FaultsOnly kind) (later : ∀ value, (next value).FaultsOnly kind) :
    (action >>= next).FaultsOnly kind := by
  intro before
  have first := start before
  rw [bind_apply]
  generalize action before = reached at first
  obtain ⟨outcome, after⟩ := reached
  cases outcome with
  | ok value => exact later value after
  | error fault => exact .error (first fault rfl)

theorem FaultsOnly.map {action : Action σ α} (start : action.FaultsOnly kind) (f : α → β) :
    (f <$> action).FaultsOnly kind := by
  rw [map_eq_pure_bind]
  exact start.bind (fun _ _ => .ok _)

theorem ofExcept_faultsOnly {outcome : Except Fault α}
    (only : ParserRefresh.FaultsOnly kind outcome) :
    (ofExcept outcome : Action σ α).FaultsOnly kind := fun _ => only

theorem ofExcept_bind_faultsOnly {outcome : Except Fault α} {next : α → Action σ β}
    (only : ParserRefresh.FaultsOnly kind outcome)
    (later : ∀ value, outcome = .ok value → (next value).FaultsOnly kind) :
    (ofExcept outcome >>= next).FaultsOnly kind := by
  cases outcome with
  | ok value => exact later value rfl
  | error fault => exact fun _ => .error (only fault rfl)

theorem load_plain (path : Path) : (load path : Action σ SourceUnit).Plain :=
  FaultsOnly.bind (fun _ => .ok _)
    (fun files => ofExcept_faultsOnly (SourceUnit.load_plain files path))

theorem writeArtifact_plain (path : Path) (text : Text) :
    (writeArtifact path text : Action σ Unit).Plain := by
  intro before
  have plain : ParserRefresh.Plain (before.files.writeArtifact path text).1 := by
    unfold FileSystem.writeArtifact
    dsimp only
    split
    · exact .cause _
    · split
      · exact .ok _
      · exact .cause _
  unfold writeArtifact
  split
  · exact .ok _
  · next failed =>
    rw [failed] at plain
    exact .error (plain _ rfl)

theorem execute_unblamed {runner : Runner σ} (unblamed : runner.Unblamed)
    (invocation : Invocation) : (execute runner invocation).Unblamed := by
  have accepted : ∀ output : CommandOutput,
      ParserRefresh.Unblamed (output.requireSuccess invocation) := by
    intro output
    unfold CommandOutput.requireSuccess
    split
    · exact .ok _
    · exact .error rfl
  refine FaultsOnly.bind (fun before => ?_) (fun output => ofExcept_faultsOnly (accepted output))
  exact unblamed invocation before.agent before.files

end Action

namespace Refresh

variable {σ : Type}

theorem buildPrelude_plain [PatternLibrary] (options : Options) :
    (buildPrelude options : Action σ Text).Plain := by
  refine Action.FaultsOnly.bind (Action.load_plain _) (fun unit => ?_)
  refine Action.FaultsOnly.bind (fun _ => .ok _) (fun files => ?_)
  obtain ⟨building, running⟩ := prelude_plain files unit.path options.prelude
  refine Action.ofExcept_bind_faultsOnly building (fun pass built => ?_)
  exact Action.FaultsOnly.bind (fun _ => .ok _)
    (fun _ => Action.ofExcept_faultsOnly (running pass built _))

/-- Whatever is wrong with a block of rules, putting it in fails with a plain cause. -/
theorem spliceBlock_plain (options : Options) (block : RuleBlock) :
    (spliceBlock options block : Action σ Report).Plain := by
  refine Action.FaultsOnly.bind (Action.load_plain _) (fun original => ?_)
  refine Action.ofExcept_bind_faultsOnly (Rules.replace_plain _ _ _) (fun spliced _ => ?_)
  dsimp only
  split
  · exact Action.FaultsOnly.bind (Action.writeArtifact_plain _ _) (fun _ _ => .ok _)
  · exact fun _ => .ok _

theorem splice_unblamed (options : Options) (compiled : Text) :
    (splice options compiled : Action σ Report).Unblamed :=
  Action.ofExcept_bind_faultsOnly (Rules.extract_unblamed _ _)
    (fun block _ => (spliceBlock_plain options block).unblamed)

/-- A splice crashes exactly where the rules are cut out. -/
theorem splice_eq_crashed_iff {options : Options} {compiled : Text} {before : Workspace σ} :
    (splice options compiled before).1 = .error .crashed ↔
      Rules.extract options.extract compiled = .error .crashed := by
  have whole : splice options compiled before =
      (Action.ofExcept (Rules.extract options.extract compiled) >>= spliceBlock options) before :=
    rfl
  rw [whole, Action.bind_apply, Action.ofExcept]
  cases Rules.extract options.extract compiled with
  | ok block =>
    have plain := Plain.ne_crashed (spliceBlock_plain options block before)
    exact iff_of_false plain fun same => by cases same
  | error fault => rw [Except.error.injEq, Except.error.injEq]

end Refresh

end ParserRefresh
