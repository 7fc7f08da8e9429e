import ParserRefresh.CommandLine.Program
import ParserRefresh.Proofs.RefreshEnds
import ParserRefresh.Shell.System

/-! # Runs of the program

What someone sees of a run is its status and what it prints. A refresh that fails is told with the
step that is blamed; only a crash is passed over in silence. On the system, where commands are
processes, the program crashes just in a splice. -/

namespace ParserRefresh

namespace Program

/-- How a refresh that has ended is told: with its report, with the step that it has failed in, or,
after a crash, not at all. -/
inductive Tells (json : Bool) : Except Fault Report → Exit → Prop where
  | done (report : Report) :
    Tells json (.ok report) ⟨0, if json then report.json else report.summary, []⟩
  | failed (cause : Cause) (step : Step) :
    Tells json (.error (.failed cause (some step)))
      ⟨1, [], "error: Stage '".toList ++ step.name ++ "' failed: ".toList ++ cause.message ++
        ['\n']⟩
  | crashed : Tells json (.error .crashed) ⟨101, [], []⟩

/-- The ways in which the program ends: it prints what its task has come to, or an error; it refuses
its arguments before it has done anything; or it has crashed. -/
inductive Ends {σ : Type} (before : Workspace σ) : Exit × Workspace σ → Prop where
  | done (shown : Text) (after : Workspace σ) : Ends before (⟨0, shown, []⟩, after)
  | failed (message : Text) (after : Workspace σ) :
    Ends before (⟨1, [], "error: ".toList ++ message ++ ['\n']⟩, after)
  | refused : Ends before (⟨2, [], usage⟩, before)
  | crashed (after : Workspace σ) : Ends before (⟨101, [], []⟩, after)

section

variable {σ : Type} {library : SettingsLibrary} {runner : Runner σ} {words : List Text}
  {before : Workspace σ} {arguments : Arguments} {configuration : Configuration}

theorem ends_stopped (obstacle : Obstacle) (after : Workspace σ) :
    Ends before (stopped obstacle, after) := by
  unfold stopped
  cases obstacle.message? with
  | some message => exact .failed message after
  | none => exact .crashed after

variable [PatternLibrary]

theorem ends_run (library : SettingsLibrary) (runner : Runner σ) (words : List Text)
    (before : Workspace σ) : Ends before (run library runner words before) := by
  unfold run
  cases Arguments.parse words with
  | error halt =>
    cases halt with
    | usage => exact .refused
    | help | version => exact .done _ _
  | ok arguments =>
    dsimp only
    cases loadConfiguration library before.files arguments with
    | error obstacle => exact ends_stopped obstacle before
    | ok configuration =>
      dsimp only
      obtain ⟨fault | shown, after⟩ :=
        perform (configuration.options arguments.root) runner arguments before
      · exact ends_stopped _ after
      · exact .done shown after

/-- When a refresh is asked for, the program does what the refresh does, and tells how it has
ended. -/
theorem tells_run (unblamed : runner.Unblamed) (parsed : Arguments.parse words = .ok arguments)
    (asked : arguments.task = .run)
    (loaded : loadConfiguration library before.files arguments = .ok configuration) :
    (run library runner words before).2 =
        (Refresh.run (configuration.options arguments.root) runner before).2 ∧
      Tells arguments.json (Refresh.run (configuration.options arguments.root) runner before).1
        (run library runner words before).1 := by
  have performed : perform (configuration.options arguments.root) runner arguments =
      (fun report : Report => if arguments.json then report.json else report.summary) <$>
        Refresh.run (configuration.options arguments.root) runner := by
    rw [perform, asked]
    rfl
  unfold run
  rw [parsed]
  dsimp only
  rw [loaded]
  dsimp only
  rw [performed, Action.map_apply]
  generalize ended : Refresh.run (configuration.options arguments.root) runner before = ending
  obtain ⟨fault | report, after⟩ := ending
  · obtain ⟨step, inner, rfl, -⟩ := Refresh.exists_stopsIn_of_run_error unblamed ended
    cases inner with
    | failed cause blamed => exact ⟨rfl, .failed cause _⟩
    | crashed => exact ⟨rfl, .crashed⟩
  · exact ⟨rfl, .done report⟩

end

end Program

namespace Shell

variable {σ : Type} {invocation : Invocation} {agent : σ} {files : FileSystem} {fault : Fault}

/-- A command that the system cannot run is not run at all, and its failure is told as that of a
process without a status. -/
theorem of_runner_error (failed : (runner invocation agent files).1 = .error fault) :
    (∃ reason, fault = Cause.failedCommand invocation.shown none
      ("failed to start: ".toList ++ reason)) ∧
      (runner invocation agent files).2 = (agent, files) := by
  unfold runner at failed ⊢
  dsimp only at failed ⊢
  split at failed
  · next nul =>
    rw [if_pos nul]
    cases failed
    exact ⟨⟨_, rfl⟩, rfl⟩
  · next clean =>
    rw [if_neg clean]
    cases launched : launch invocation files with
    | error refusal =>
      rw [launched] at failed
      cases failed
      exact ⟨⟨_, rfl⟩, rfl⟩
    | ok process =>
      rw [launched] at failed
      cases failed

theorem runner_unblamed : (runner : Runner σ).Unblamed := by
  intro invocation agent files fault failed
  obtain ⟨⟨reason, rfl⟩, -⟩ := of_runner_error failed
  rfl

/-- Commands leave the directory as it is in which the program has been started. -/
theorem workingDirectory_runner (invocation : Invocation) (agent : σ) (files : FileSystem) :
    (runner invocation agent files).2.2.workingDirectory = files.workingDirectory := by
  unfold runner
  dsimp only
  split
  · rfl
  · cases launch invocation files <;> rfl

/-- On the system a refresh crashes just if it gets to the splice of an output that starts blank. -/
theorem run_eq_crashed_iff [PatternLibrary] {options : Options} {before : Workspace σ} :
    (Refresh.run options runner before).1 = .error .crashed ↔
      ∃ progress reached,
        Refresh.takeAll options runner Step.splice.earlier (.start options) before =
          (.ok progress, reached) ∧
        Rules.StartsBlank options.extract progress.compiled := by
  rw [Refresh.run_eq_crashed_iff]
  constructor
  · rintro ⟨step, progress, reached, taken, ⟨rfl, blank⟩ | ⟨invocation, -, crashed⟩⟩
    · exact ⟨progress, reached, taken, blank⟩
    · obtain ⟨⟨reason, same⟩, -⟩ := of_runner_error crashed
      cases same
  · rintro ⟨progress, reached, taken, blank⟩
    exact ⟨.splice, progress, reached, taken, .inl ⟨rfl, blank⟩⟩

end Shell

end ParserRefresh
