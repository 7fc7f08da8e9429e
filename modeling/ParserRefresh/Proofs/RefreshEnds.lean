import ParserRefresh.Proofs.ExtractedSlices
import ParserRefresh.Proofs.RefreshSteps

/-! # How a refresh ends

A refresh finishes, or it stops in one of its steps. A step that fails is blamed for the cause; a
command fails just if its runner does or it reports no success. A refresh can also crash: then it
ends in the middle of a step, without a cause, and nobody is blamed. Unless a runner crashes by
itself, only the splice does so, and just on an output that starts blank. -/

namespace ParserRefresh.Refresh

section

variable [PatternLibrary] {σ : Type} {options : Options} {runner : Runner σ} {progress : Progress}
  {before reached after : Workspace σ} {fault : Fault} {step : Step} {invocation : Invocation}

/-! ## When a step goes wrong -/

/-- A command fails: it cannot be run, or it reports no success. Then the fault shows what it wrote
to its error stream, or its ordinary output if that is blank. -/
def CommandFails (runner : Runner σ) (invocation : Invocation) (before : Workspace σ)
    (fault : Fault) : Prop :=
  (runner invocation before.agent before.files).1 = .error fault ∨
    ∃ output, (runner invocation before.agent before.files).1 = .ok output ∧
      output.success = false ∧
      fault = Cause.failedCommand invocation.shown output.status
        (if Text.isBlank output.stderr then output.stdout else output.stderr)

/-- A step crashes: it splices an output that starts blank, or it asks for a command whose runner
crashes. -/
def CrashesIn (options : Options) (runner : Runner σ) (progress : Progress)
    (before : Workspace σ) (step : Step) : Prop :=
  (step = .splice ∧ Rules.StartsBlank options.extract progress.compiled) ∨
    ∃ invocation, attempted options step = [.invoked invocation] ∧
      (runner invocation before.agent before.files).1 = .error .crashed

omit [PatternLibrary] in
theorem requireSuccess_eq_error_iff {output : CommandOutput} :
    output.requireSuccess invocation = .error fault ↔ output.success = false ∧
      fault = Cause.failedCommand invocation.shown output.status
        (if Text.isBlank output.stderr then output.stdout else output.stderr) := by
  unfold CommandOutput.requireSuccess
  cases output.success with
  | true => exact iff_of_false nofun nofun
  | false =>
    rw [if_neg Bool.false_ne_true, Except.error.injEq, eq_comm]
    exact (and_iff_right rfl).symm

omit [PatternLibrary] in
theorem execute_eq_error_iff :
    (Action.execute runner invocation before).1 = .error fault ↔
      CommandFails runner invocation before fault := by
  rw [Action.execute, Action.bind_apply, CommandFails]
  unfold Action.invoke Action.ofExcept
  rcases runner invocation before.agent before.files with ⟨other | output, agent, files⟩
  · simp
  · simp [requireSuccess_eq_error_iff]

omit [PatternLibrary] in
theorem commandFails_crashed_iff :
    CommandFails runner invocation before .crashed ↔
      (runner invocation before.agent before.files).1 = .error .crashed :=
  or_iff_left fun ⟨_, _, _, same⟩ => by cases same

/-- A step with a command goes wrong just as the command does. -/
theorem take_eq_error_iff (asks : attempted options step = [.invoked invocation]) :
    (take options runner progress step before).1 = .error fault ↔
      CommandFails runner invocation before fault := by
  cases step with
  | buildPrelude | writePrelude | writeCompiled | splice => cases asks
  | rebuild | compile =>
    cases asks
    rw [take, Action.fst_map_eq_error_iff, execute_eq_error_iff]

theorem take_eq_crashed_iff :
    (take options runner progress step before).1 = .error .crashed ↔
      CrashesIn options runner progress before step := by
  cases step with
  | buildPrelude =>
    have plain := Plain.ne_crashed (buildPrelude_plain options before)
    simpa [take, Action.fst_map_eq_error_iff, CrashesIn, attempted] using plain
  | writePrelude | writeCompiled =>
    have plain := fun path text => Plain.ne_crashed (Action.writeArtifact_plain path text before)
    simpa [take, Action.fst_map_eq_error_iff, CrashesIn, attempted] using plain _ _
  | rebuild | compile =>
    rw [take_eq_error_iff rfl, commandFails_crashed_iff]
    simp [CrashesIn, attempted]
  | splice =>
    rw [take, Action.fst_map_eq_error_iff, splice_eq_crashed_iff, Rules.extract_eq_crashed_iff]
    simp [CrashesIn, attempted]

/-! ## Where a refresh stops -/

/-- A refresh stops in a step: the steps before it have been taken, and it goes wrong by a fault that
nobody is blamed for yet. Of the plan the refresh has done what comes before this step, and has
asked for the command of the step. A step without a command leaves all files as it found them; when
the prelude cannot be made, there are warnings at most. -/
def StopsIn (options : Options) (runner : Runner σ) (before : Workspace σ) (step : Step)
    (fault : Fault) (after : Workspace σ) : Prop :=
  ∃ progress reached,
    takeAll options runner step.earlier (.start options) before = (.ok progress, reached) ∧
    take options runner progress step reached = (.error fault, after) ∧
    (∀ spliced, Did before after ((plan options progress spliced).take step.effectCount)) ∧
    (attempted options step = [] → reached.files.SameFiles after.files) ∧
    (step = .buildPrelude → after.files = before.files ∧ after.agent = before.agent)

theorem exists_stopsIn_of_run_error (unblamed : runner.Unblamed)
    (stopped : run options runner before = (.error fault, after)) :
    ∃ step inner, inner.inStep step = fault ∧ inner.step? = none ∧
      StopsIn options runner before step inner after := by
  rw [run_eq_takeAll, Action.map_eq_error_iff] at stopped
  obtain ⟨start, step, later, progress, reached, inner, whole, taken, stopped, blamed⟩ :=
    exists_of_takeAll_error stopped
  obtain rfl := Step.earlier_of_append whole.symm
  have free := take_unblamed unblamed options progress step reached inner (by rw [stopped])
  refine ⟨step, inner, blamed, free, progress, reached, taken, stopped,
    did_of_take_error taken stopped, fun none => ((take_error_did stopped).2 none).sameFiles, ?_⟩
  rintro rfl
  obtain ⟨rfl, rfl⟩ := Action.pure_eq_ok_iff.mp taken
  obtain ⟨warnings, rfl⟩ :=
    exists_warnings_of_buildPrelude (Action.map_eq_error_iff.mp stopped)
  exact ⟨rfl, rfl⟩

/-- A refresh crashes just if it gets to a step that does. -/
theorem run_eq_crashed_iff :
    (run options runner before).1 = .error .crashed ↔
      ∃ step progress reached,
        takeAll options runner step.earlier (.start options) before = (.ok progress, reached) ∧
        CrashesIn options runner progress reached step := by
  constructor
  · intro crashed
    have stopped : run options runner before = (.error .crashed, (run options runner before).2) :=
      Prod.ext crashed rfl
    rw [run_eq_takeAll, Action.map_eq_error_iff] at stopped
    obtain ⟨start, step, later, progress, reached, inner, whole, taken, stopped, blamed⟩ :=
      exists_of_takeAll_error stopped
    obtain rfl := Step.earlier_of_append whole.symm
    have same : inner = .crashed := by
      cases inner with
      | crashed => rfl
      | failed cause step => cases blamed
    exact ⟨step, progress, reached, taken, take_eq_crashed_iff.mp (by rw [stopped, same])⟩
  · rintro ⟨step, progress, reached, taken, crashes⟩
    have stopped : take options runner progress step reached =
        (.error .crashed, (take options runner progress step reached).2) :=
      Prod.ext (take_eq_crashed_iff.mpr crashes) rfl
    rw [run_of_take_error taken stopped]
    rfl

/-- However a refresh ends, what it has done is a start of the plan. It finishes, or it stops in a
step and the fault is the cause that the step has failed with, blamed on the step, or the step has
crashed. A step with a command goes wrong just as the command does, and a refresh crashes just if it
gets to a splice of an output that starts blank, or to a command whose runner crashes. -/
theorem run_stops_or_finishes (options : Options) (unblamed : runner.Unblamed)
    (before : Workspace σ) :
    Planned options before (run options runner before).2 ∧
    (match run options runner before with
      | (.error (.failed cause blamed), after) =>
        ∃ step, blamed = some step ∧ StopsIn options runner before step cause after
      | (.error .crashed, after) => ∃ step, StopsIn options runner before step .crashed after
      | (.ok report, after) => Finishes options runner before report after) ∧
    (∀ step invocation, attempted options step = [.invoked invocation] →
      ∀ progress reached fault, (take options runner progress step reached).1 = .error fault ↔
        CommandFails runner invocation reached fault) ∧
    ((run options runner before).1 = .error .crashed ↔
      ∃ step progress reached,
        takeAll options runner step.earlier (.start options) before = (.ok progress, reached) ∧
        CrashesIn options runner progress reached step) := by
  refine ⟨planned_of_run options runner before, ?_,
    fun step invocation asks progress reached fault => take_eq_error_iff asks, run_eq_crashed_iff⟩
  generalize ended : run options runner before = ending
  obtain ⟨fault | report, after⟩ := ending
  · obtain ⟨step, inner, rfl, free, stops⟩ := exists_stopsIn_of_run_error unblamed ended
    cases inner with
    | crashed => exact ⟨step, stops⟩
    | failed cause blamed =>
      cases free
      exact ⟨step, rfl, stops⟩
  · exact finishes_of_run_ok ended

end

/-! ## Three refreshes -/

/-- Commands that succeed, the first of which adds a line to the development source. -/
def editingRunner : Runner Nat := fun invocation count files =>
  if invocation.program = "make".toList then
    (.ok ⟨[], [], some 0, true⟩, count + 1,
      files.put ["a".toList] (.file (.text "// RULES START\n// RULES END\nf\ng".toList) false))
  else (.ok ⟨"rule!( Grammar <- x\n".toList, [], some 0, true⟩, count + 1, files)

/-- A build that succeeds, and a compiler that reports its failure on its ordinary output. -/
def failingRunner : Runner Nat := fun invocation count files =>
  if invocation.program = "make".toList then (.ok ⟨[], [], some 0, true⟩, count + 1, files)
  else (.ok ⟨"no rule\n".toList, ['\n'], some 2, false⟩, count + 1, files)

/-- Commands that print a blank line above an indented one. -/
def blankRunner : Runner Nat := fun _ count files =>
  (.ok ⟨"\n  x\n".toList, [], some 0, true⟩, count + 1, files)

def openOptions : Options := { smallOptions with extract := ⟨[], true⟩ }

theorem editingRunner_unblamed : editingRunner.Unblamed := by
  intro invocation count files
  unfold editingRunner
  split
  · exact .ok _
  · exact .ok _

theorem run_editingRunner :
    letI := PatternLibrary.lenient
    (run smallOptions editingRunner ⟨smallProject, 0, []⟩).map id
        (fun after => after.files.readText ⟨"./a".toList⟩) =
      (.ok ⟨some ⟨"./p".toList⟩, some ⟨"./c".toList⟩, ⟨"./a".toList⟩, 1, true⟩, .ok ([['a']],
        "// RULES START\n\nrule!( Grammar <- x\n\n// RULES END\nf\ng".toList)) := by
  decide +kernel

theorem failingRunner_unblamed : failingRunner.Unblamed := by
  intro invocation count files
  unfold failingRunner
  split
  · exact .ok _
  · exact .ok _

theorem run_failingRunner :
    letI := PatternLibrary.lenient
    (run smallOptions failingRunner ⟨smallProject, 0, []⟩).1 =
      .error (.failed (.failedCommand "./nailgun -g ./g".toList (some 2) "no rule\n".toList)
        (some .compile)) := by
  decide +kernel

theorem blankRunner_unblamed : blankRunner.Unblamed := fun _ _ _ => .ok _

theorem run_blankRunner :
    letI := PatternLibrary.lenient
    (run openOptions blankRunner ⟨smallProject, 0, []⟩).1 = .error .crashed := by
  decide +kernel

/-- Not all that goes wrong in a refresh is blamed on a step. -/
theorem exists_run_eq_crashed :
    letI := PatternLibrary.lenient
    ¬ ∀ (options : Options) (runner : Runner Nat) (before after : Workspace Nat) (fault : Fault),
      runner.Unblamed → run options runner before = (.error fault, after) →
        ∃ step cause, fault = .failed cause (some step) := by
  let := PatternLibrary.lenient
  intro all
  have blamed := all openOptions blankRunner ⟨smallProject, 0, []⟩
  have crashed := run_blankRunner
  generalize run openOptions blankRunner ⟨smallProject, 0, []⟩ = ending at blamed crashed
  obtain ⟨outcome, after⟩ := ending
  cases crashed
  obtain ⟨step, cause, same⟩ := blamed _ _ blankRunner_unblamed rfl
  cases same

/-- The first refresh reaches the source that the build has edited. The second one stops when the
compiler fails, and shows its ordinary output, because its error stream is blank. The third one
crashes in the splice. -/
theorem run_stops_or_finishes_threeRunners :
    letI := PatternLibrary.lenient
    (editingRunner.Unblamed ∧
      Planned smallOptions ⟨smallProject, 0, []⟩
        (run smallOptions editingRunner ⟨smallProject, 0, []⟩).2 ∧
      ∃ after, Finishes smallOptions editingRunner ⟨smallProject, 0, []⟩
          ⟨some ⟨"./p".toList⟩, some ⟨"./c".toList⟩, ⟨"./a".toList⟩, 1, true⟩ after ∧
        after.files.readText ⟨"./a".toList⟩ = .ok ([['a']],
          "// RULES START\n\nrule!( Grammar <- x\n\n// RULES END\nf\ng".toList)) ∧
    (failingRunner.Unblamed ∧
      ∃ cause after, cause = .failedCommand "./nailgun -g ./g".toList (some 2) "no rule\n".toList ∧
        run smallOptions failingRunner ⟨smallProject, 0, []⟩ =
          (.error (.failed cause (some .compile)), after) ∧
        StopsIn smallOptions failingRunner ⟨smallProject, 0, []⟩ .compile cause after ∧
        CommandFails failingRunner (compileInvocation smallOptions) after cause) ∧
    (blankRunner.Unblamed ∧
      ∃ step after, run openOptions blankRunner ⟨smallProject, 0, []⟩ = (.error .crashed, after) ∧
        StopsIn openOptions blankRunner ⟨smallProject, 0, []⟩ step .crashed after ∧
        ∃ step progress reached,
          takeAll openOptions blankRunner step.earlier (.start openOptions)
              ⟨smallProject, 0, []⟩ = (.ok progress, reached) ∧
            CrashesIn openOptions blankRunner progress reached step) := by
  let := PatternLibrary.lenient
  refine ⟨?edits, ?fails, ?crashes⟩
  case edits =>
    obtain ⟨planned, ends, -⟩ :=
      run_stops_or_finishes smallOptions editingRunner_unblamed ⟨smallProject, 0, []⟩
    have evaluated := run_editingRunner
    refine ⟨editingRunner_unblamed, planned, ?_⟩
    generalize run smallOptions editingRunner ⟨smallProject, 0, []⟩ = ending at evaluated ends
    obtain ⟨outcome, after⟩ := ending
    obtain ⟨rfl, text⟩ := Prod.mk.inj evaluated
    exact ⟨after, ends, text⟩
  case fails =>
    obtain ⟨-, ends, commands, -⟩ :=
      run_stops_or_finishes smallOptions failingRunner_unblamed ⟨smallProject, 0, []⟩
    have evaluated := run_failingRunner
    refine ⟨failingRunner_unblamed, ?_⟩
    generalize run smallOptions failingRunner ⟨smallProject, 0, []⟩ = ending at evaluated ends ⊢
    obtain ⟨outcome, after⟩ := ending
    cases evaluated
    obtain ⟨step, same, progress, reached, taken, stopped, rest⟩ := ends
    cases same
    have fails := (commands .compile _ rfl progress reached _).mp (by rw [stopped])
    exact ⟨_, after, rfl, rfl, ⟨progress, reached, taken, stopped, rest⟩, fails⟩
  case crashes =>
    obtain ⟨-, ends, -, crashes⟩ :=
      run_stops_or_finishes openOptions blankRunner_unblamed ⟨smallProject, 0, []⟩
    have evaluated := run_blankRunner
    have reason := crashes.mp evaluated
    refine ⟨blankRunner_unblamed, ?_⟩
    generalize run openOptions blankRunner ⟨smallProject, 0, []⟩ = ending at evaluated ends ⊢
    obtain ⟨outcome, after⟩ := ending
    cases evaluated
    obtain ⟨step, stops⟩ := ends
    exact ⟨step, after, rfl, stops, reason⟩

end ParserRefresh.Refresh
