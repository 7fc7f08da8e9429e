import ParserRefresh.CommandLine.Program
import ParserRefresh.Proofs.Nesting
import ParserRefresh.Proofs.RefreshSteps

/-! # A refresh by hand

A project can be refreshed by hand, errand by errand: the program writes the prelude to its path,
the build and the compiler are called, what the compiler printed is kept in a file, and the program
splices the rules that it reads from this file. A refresh at one go ends as the errands end, with
the same files: it fails in the step in which an errand has failed, and it finishes when all of
them are done, because the errands read back what a refresh keeps in memory. -/

namespace ParserRefresh.Refresh

variable [PatternLibrary] {σ α β : Type}

/-! ## Errands -/

/-- What is done by hand, in this order. -/
inductive Errand where
  /-- The program writes the prelude to a file. -/
  | prelude
  | build
  | compile
  /-- What the compiler printed is kept in a file. -/
  | keep
  /-- The program splices the rules that it finds in a file. -/
  | splice
  deriving DecidableEq

def Errand.steps : Errand → List Step
  | .prelude => [.buildPrelude, .writePrelude]
  | .build => [.rebuild]
  | .compile => [.compile]
  | .keep => [.writeCompiled]
  | .splice => [.splice]

def Errand.isTask : Errand → Bool
  | .prelude | .splice => true
  | .build | .compile | .keep => false

/-- Does an errand. If it fails, the fault comes with the errand. -/
def Errand.perform (errand : Errand) (action : Action σ α) :
    ExceptT (Errand × Fault) (StateM (Workspace σ)) α := fun workspace =>
  match action workspace with
  | (.ok value, after) => (.ok value, after)
  | (.error fault, after) => (.error (errand, fault), after)

/-- Does one errand after the other, up to the first that fails. -/
def byHand (options : Options) (runner : Runner σ) :
    ExceptT (Errand × Fault) (StateM (Workspace σ)) Report := do
  let layout := options.layout
  let _ ← Errand.prelude.perform (Program.preludeTask options (some layout.preludePath))
  let _ ← Errand.build.perform (Action.execute runner (buildInvocation options))
  let output ← Errand.compile.perform (Action.execute runner (compileInvocation options))
  Errand.keep.perform (Action.writeArtifact layout.compiledPath output.stdout)
  Errand.splice.perform (Program.spliceTask options layout.compiledPath)

omit [PatternLibrary] in
theorem Errand.perform_bind_apply (errand : Errand) (action : Action σ α)
    (next : α → ExceptT (Errand × Fault) (StateM (Workspace σ)) β) (before : Workspace σ) :
    (errand.perform action >>= next) before =
      match action before with
      | (.ok value, after) => next value after
      | (.error fault, after) => (.error (errand, fault), after) := by
  have whole : (errand.perform action >>= next) before =
      ExceptT.bindCont next (errand.perform action before).1 (errand.perform action before).2 := rfl
  rw [whole, Errand.perform]
  rcases action before with ⟨_ | _, _⟩ <;> rfl

/-! ## Refreshes that end as errands do -/

/-- A refresh fails in a step: the steps before it have been taken, and it ends with a fault of the
given cause, or crashes. -/
def FailsIn (options : Options) (runner : Runner σ) (before : Workspace σ) (step : Step)
    (cause? : Option Cause) (after : Workspace σ) : Prop :=
  ∃ progress reached fault,
    takeAll options runner step.earlier (.start options) before = (.ok progress, reached) ∧
    take options runner progress step reached = (.error fault, after) ∧ fault.cause? = cause?

/-- A refresh ends as errands have ended. When all are done, it gives the report of the last one
with the paths of what the others have written. When one has failed, the refresh fails in a step
that this errand takes, with the same cause, and blames it on the step; a task of the program has
blamed it on the same step. Where an errand has crashed, so does the refresh. -/
def EndsAs (options : Options) (runner : Runner σ) (before : Workspace σ) :
    Except (Errand × Fault) Report × Workspace σ → Prop
  | (.ok report, after) =>
    run options runner before = (.ok { report with
      prelude := some options.layout.preludePath
      compiled := some options.layout.compiledPath }, after)
  | (.error (errand, fault), after) =>
    ∃ step ∈ errand.steps, FailsIn options runner before step fault.cause? after ∧
      run options runner before = (.error (fault.inStep step), after) ∧
      (errand.isTask = true → fault.inStep step = fault)

variable {options : Options} {runner : Runner σ} {progress reached : Progress}
  {before between after : Workspace σ} {step : Step} {errand : Errand} {fault : Fault}

theorem takeAll_append_singleton {steps : List Step} {further : Progress}
    (taken : takeAll options runner steps progress before = (.ok reached, between))
    (stepped : take options runner reached step between = (.ok further, after)) :
    takeAll options runner (steps ++ [step]) progress before = (.ok further, after) := by
  rw [takeAll_append]
  refine Action.bind_eq_ok_iff.mpr ⟨reached, between, taken, ?_⟩
  exact takeAll_cons_eq_ok_iff.mpr ⟨further, after, stepped, takeAll_nil_eq_ok_iff.mpr ⟨rfl, rfl⟩⟩

/-- An errand that blames its faults on their step, and fails. -/
theorem endsAs_of_blamed (member : step ∈ errand.steps)
    (taken : takeAll options runner step.earlier (.start options) before = (.ok progress, between))
    (failed : take options runner progress step between = (.error fault, after)) :
    EndsAs options runner before (.error (errand, fault.inStep step), after) := by
  have ended := run_of_take_error taken failed
  have same := fault.inStep_inStep step step
  exact ⟨step, member, ⟨progress, between, fault, taken, failed, (fault.cause?_inStep step).symm⟩,
    same.symm ▸ ended, fun _ => same⟩

/-- An errand that takes one step and blames nobody fails as the step does, or else the step is
taken and the next errand is due. -/
theorem endsAs_perform_bind {action : Action σ α} {known : α → Progress}
    {next : α → ExceptT (Errand × Fault) (StateM (Workspace σ)) Report}
    (member : step ∈ errand.steps) (free : errand.isTask = false)
    (taken : takeAll options runner step.earlier (.start options) before = (.ok progress, between))
    (acts : take options runner progress step = known <$> action)
    (goesOn : ∀ value reached, action between = (.ok value, reached) →
      takeAll options runner (step.earlier ++ [step]) (.start options) before =
        (.ok (known value), reached) →
      EndsAs options runner before (next value reached)) :
    EndsAs options runner before ((errand.perform action >>= next) between) := by
  rw [Errand.perform_bind_apply]
  rcases ended : action between with ⟨fault | value, reached⟩
  · have failed : take options runner progress step between = (.error fault, reached) := by
      rw [acts, Action.map_eq_error_iff, ended]
    refine ⟨step, member, ⟨progress, between, fault, taken, failed, rfl⟩,
      run_of_take_error taken failed, fun task => ?_⟩
    rw [free] at task
    cases task
  · have stepped : take options runner progress step between = (.ok (known value), reached) := by
      rw [acts]
      exact Action.map_eq_ok_iff.mpr ⟨value, ended, rfl⟩
    exact goesOn value reached ended (takeAll_append_singleton taken stepped)

/-! ## The tasks of the program -/

/-- To write the prelude is to take the first two steps of a refresh. -/
theorem preludeTask_eq_takeAll (options : Options) (runner : Runner σ) :
    (Program.preludeTask options (some options.layout.preludePath) : Action σ Text) =
      (fun _ => "Wrote prelude to ".toList ++ options.layout.preludePath.text ++ ['\n']) <$>
        takeAll options runner Step.rebuild.earlier (.start options) := by
  have first : Step.rebuild.earlier = [.buildPrelude, .writePrelude] := by decide
  simp only [Program.preludeTask, first, takeAll, take, Action.during_map]
  simp only [map_eq_pure_bind, bind_assoc, pure_bind, Progress.start]

theorem endsAs_of_preludeTask_error (runner : Runner σ)
    (failed : Program.preludeTask options (some options.layout.preludePath) before =
      (.error fault, after)) :
    EndsAs options runner before (.error (.prelude, fault), after) := by
  rw [preludeTask_eq_takeAll options runner, Action.map_eq_error_iff] at failed
  obtain ⟨start, step, later, progress, between, inner, whole, taken, stopped, rfl⟩ :=
    exists_of_takeAll_error failed
  have member : step ∈ Errand.prelude.steps := by
    have listed : step ∈ Step.rebuild.earlier := by simp [whole]
    exact listed
  have initial : start ++ [step] <+: Step.rebuild.earlier := ⟨later, by rw [whole]; simp⟩
  obtain ⟨rfl, -⟩ := Step.earlier_of_prefix initial
  exact endsAs_of_blamed member taken stopped

omit [PatternLibrary] in
/-- Rules that are spliced from a file are those that were kept in it. -/
theorem perform_spliceTask_of_written {path : Path} {text : Text}
    (written : Action.writeArtifact path text before = (.ok (), after)) :
    Errand.splice.perform (Program.spliceTask options path) after =
      Errand.splice.perform ((splice options text).during .splice) after := by
  have read := FileSystem.readText_of_writeArtifact (Action.writeArtifact_ok written).1
  have loaded : Action.load path after = (.ok ⟨path, text⟩, after) :=
    Action.load_eq_iff.mpr ⟨SourceUnit.load_eq_ok_iff.mpr read, rfl⟩
  have same : (Program.spliceTask options path : Action σ Report) after =
      (splice options text).during .splice after := by
    rw [Program.spliceTask, Action.during_apply, Action.bind_apply, loaded, Action.during_apply]
  rw [Errand.perform, same, Errand.perform]

theorem endsAs_of_splice {text : Text}
    (taken : takeAll options runner Step.splice.earlier (.start options) before =
      (.ok progress, between)) (compiled : progress.compiled = text) :
    EndsAs options runner before
      (Errand.splice.perform ((splice options text).during .splice) between) := by
  subst compiled
  rw [Errand.perform, Action.during_apply]
  rcases ended : splice options progress.compiled between with ⟨fault | report, after⟩
  · exact endsAs_of_blamed (by decide) taken (Action.map_eq_error_iff.mpr ended)
  · exact run_eq_ok_iff.mpr ⟨progress, between, report, taken, ended, rfl⟩

/-! ## All errands -/

/-- A refresh at one go ends as a refresh by hand does, whatever the commands do and wherever the
paths lead. -/
theorem run_endsAs_byHand (options : Options) (runner : Runner σ) (before : Workspace σ) :
    EndsAs options runner before (byHand options runner before) := by
  dsimp only [byHand]
  rw [Errand.perform_bind_apply]
  rcases made : Program.preludeTask options (some options.layout.preludePath) before with
    ⟨fault | shown, between⟩
  · exact endsAs_of_preludeTask_error runner made
  rw [preludeTask_eq_takeAll options runner] at made
  obtain ⟨progress, taken, -⟩ := Action.map_eq_ok_iff.mp made
  refine endsAs_perform_bind (List.mem_singleton_self Step.rebuild) rfl taken rfl ?_
  intro _ rebuilt _ taken
  refine endsAs_perform_bind (List.mem_singleton_self Step.compile) rfl taken rfl ?_
  intro output compiled _ taken
  refine endsAs_perform_bind (List.mem_singleton_self Step.writeCompiled) rfl taken rfl ?_
  intro _ kept written taken
  rw [perform_spliceTask_of_written written]
  exact endsAs_of_splice taken rfl

end ParserRefresh.Refresh
