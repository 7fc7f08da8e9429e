import ParserRefresh.Proofs.Lines
import ParserRefresh.Proofs.RefreshSteps

/-! # The grammar that the compiler is handed

A refresh asks for the compiler as its second command, with the grammar as the last argument. The
argument is the path of the grammar as read from where the refresh was started, and the compiler
reads it from the directory that it runs in, which is the root of the project. The two agree where
reading a path from the root a second time changes nothing. -/

namespace ParserRefresh

open Text

/-! ## Paths read from a directory -/

namespace Path

/-- The components of a path, a leading dot aside. -/
def trail (path : Path) : List Component := path.components.filter (· ≠ .here)

def ofText (text : Text) : List Component :=
  ((split '/' text).filter (fun part => !isIdle part)).map ofPart

theorem ofText_append (left right : Text) :
    ofText (left ++ '/' :: right) = ofText left ++ ofText right := by
  rw [ofText, split_append_separator, List.filter_append, List.map_append, ofText, ofText]

theorem filter_ofText (text : Text) : (ofText text).filter (· ≠ .here) = ofText text := by
  refine List.filter_eq_self.mpr (fun component member => decide_eq_true ?_)
  obtain ⟨part, -, rfl⟩ := List.mem_map.mp member
  rw [ofPart]
  split <;> simp

theorem trail_eq (path : Path) :
    path.trail = (if path.isAbsolute then [.root] else []) ++ ofText path.text := by
  obtain ⟨text⟩ := path
  unfold trail components
  dsimp only
  rw [List.filter_append, ← ofText, filter_ofText]
  fun_cases headAndBody text with
  | case1 body => exact congrArg (Component.root :: ·) (ofText_append [] body).symm
  | case2 => rfl
  | case3 body => exact (ofText_append ['.'] body).symm
  | case4 text noRoot noDot noHere =>
    have relative : isAbsolute ⟨text⟩ = false := by
      refine beq_eq_false_iff_ne.mpr (fun slash => ?_)
      obtain ⟨body, whole⟩ := List.head?_eq_some_iff.mp slash
      exact noRoot body whole
    rw [relative]
    rfl

variable {base tail : Path}

theorem join_of_isAbsolute (absolute : tail.isAbsolute = true) (base : Path) :
    base.join tail = tail := if_pos absolute

theorem isAbsolute_join (relative : tail.isAbsolute = false) :
    (base.join tail).isAbsolute = base.isAbsolute := by
  obtain ⟨front⟩ := base
  rw [join, relative, if_neg Bool.false_ne_true]
  cases front with
  | nil => exact relative
  | cons c front => split <;> rfl

theorem trail_join (relative : tail.isAbsolute = false) :
    (base.join tail).trail = base.trail ++ tail.trail := by
  have behind : ofText (base.join tail).text = ofText base.text ++ ofText tail.text := by
    rw [join, relative, if_neg Bool.false_ne_true]
    split
    · next ends =>
      rw [Bool.or_eq_true, List.isEmpty_iff, beq_iff_eq] at ends
      rcases ends with empty | slash
      · rw [empty]
        rfl
      · obtain ⟨front, whole⟩ := List.getLast?_eq_some_iff.mp slash
        rw [whole, List.append_assoc, List.singleton_append, ofText_append, ofText_append]
        rw [show ofText [] = [] from rfl, List.append_nil]
    · exact ofText_append _ _
  rw [trail_eq, trail_eq, trail_eq tail, isAbsolute_join relative, behind, relative,
    if_neg Bool.false_ne_true, List.nil_append, List.append_assoc]

/-- Reading a path from a directory twice comes to the same as reading it once exactly when the path
or the directory is absolute, or the directory leads nowhere. -/
theorem trail_join_join_iff (base tail : Path) :
    (base.join (base.join tail)).trail = (base.join tail).trail ↔
      tail.isAbsolute = true ∨ base.isAbsolute = true ∨ base.trail = [] := by
  cases absolute : tail.isAbsolute with
  | true => simp [join_of_isAbsolute absolute]
  | false =>
    cases anchored : base.isAbsolute with
    | true =>
      have again := (isAbsolute_join absolute).trans anchored
      simp [join_of_isAbsolute again]
    | false =>
      have inside := (isAbsolute_join absolute).trans anchored
      rw [trail_join inside, List.append_left_eq_self]
      simp

end Path

/-! ## The commands of a refresh -/

theorem Event.invocations_append (journal later : List Event) :
    invocations (journal ++ later) = invocations journal ++ invocations later :=
  List.filterMap_append

theorem Event.invocations_filter_isEffect (journal : List Event) :
    invocations (journal.filter isEffect) = invocations journal := by
  rw [invocations, invocations, List.filterMap_filter]
  refine List.filterMap_congr (fun event _ => ?_)
  cases event <;> rfl

theorem Did.invocations_eq {σ : Type} {before after : Workspace σ} {effects : List Event}
    (did : Did before after effects) :
    Event.invocations after.journal =
      Event.invocations before.journal ++ Event.invocations effects := by
  obtain ⟨events, journal, rfl⟩ := did
  rw [journal, Event.invocations_append, Event.invocations_filter_isEffect]

namespace Refresh

section

variable [PatternLibrary] {σ : Type}

/-- A refresh asks for the generator to be rebuilt and then for the grammar to be compiled, unless it
stops before that. -/
theorem exists_invocations_of_run (options : Options) (runner : Runner σ) (before : Workspace σ) :
    ∃ made, Event.invocations (run options runner before).2.journal =
        Event.invocations before.journal ++ made ∧
      made <+: [buildInvocation options, compileInvocation options] := by
  obtain ⟨progress, spliced, effects, did, initial⟩ := planned_of_run options runner before
  exact ⟨Event.invocations effects, did.invocations_eq, initial.filterMap _⟩

/-! ## The last argument -/

/-- The last argument of a command line, read from the directory in which the command runs, names
the grammar. -/
def HandsGrammar (layout : Layout) (invocation : Invocation) : Prop :=
  ∃ argument ∈ invocation.args.getLast?,
    (invocation.workingDirectory.join ⟨argument⟩).trail = layout.grammarPath.trail

instance (layout : Layout) (invocation : Invocation) : Decidable (HandsGrammar layout invocation) :=
  inferInstanceAs (Decidable (∃ argument ∈ invocation.args.getLast?,
    (invocation.workingDirectory.join ⟨argument⟩).trail = layout.grammarPath.trail))

omit [PatternLibrary] in
theorem handsGrammar_compileInvocation_iff (options : Options) :
    HandsGrammar options.layout (compileInvocation options) ↔
      options.layout.grammar.isAbsolute = true ∨ options.layout.root.isAbsolute = true ∨
        options.layout.root.trail = [] := by
  have last : (compileInvocation options).args.getLast? = some options.layout.grammarPath.text :=
    List.getLast?_append_cons _ _ _
  rw [HandsGrammar, last, ← Path.trail_join_join_iff]
  simp only [Option.mem_some_iff, exists_eq_left']
  rfl

/-- The compiler is handed the grammar exactly when the path of the grammar or the root of the
project is absolute, or the root is the directory in which the refresh is started. The compiler is
the second command that a refresh asks for. -/
theorem handsGrammar_of_run_iff (options : Options) (runner : Runner σ) (before : Workspace σ)
    {made : List Invocation} {invocation : Invocation}
    (journal : Event.invocations (run options runner before).2.journal =
      Event.invocations before.journal ++ made)
    (second : made[1]? = some invocation) :
    HandsGrammar options.layout invocation ↔
      options.layout.grammar.isAbsolute = true ∨ options.layout.root.isAbsolute = true ∨
        options.layout.root.trail = [] := by
  obtain ⟨asked, whole, initial⟩ := exists_invocations_of_run options runner before
  obtain rfl := List.append_cancel_left (journal.symm.trans whole)
  have compiles : some (compileInvocation options) = some invocation := by
    obtain ⟨later, both⟩ := initial
    have within := (List.getElem?_eq_some_iff.mp second).1
    rw [← second, ← List.getElem?_append_left within, both]
    rfl
  cases compiles
  exact handsGrammar_compileInvocation_iff options

end

def dottedOptions : Options where
  layout := ⟨⟨"./.".toList⟩, ⟨['a']⟩, ⟨['p']⟩, ⟨['c']⟩, ⟨['g']⟩⟩

theorem invocations_of_run_dottedOptions :
    letI := PatternLibrary.lenient
    Event.invocations (run dottedOptions quietRunner ⟨smallProject, 0, []⟩).2.journal =
      Event.invocations [] ++ [⟨"make".toList, ["-B".toList], ⟨"./.".toList⟩⟩,
        ⟨"./nailgun".toList, ["-g".toList, "././g".toList], ⟨"./.".toList⟩⟩] := by
  decide +kernel

theorem handsGrammar_of_run_iff_dottedOptions :
    letI := PatternLibrary.lenient
    ∃ made invocation,
      Event.invocations (run dottedOptions quietRunner ⟨smallProject, 0, []⟩).2.journal =
        Event.invocations [] ++ made ∧
      made[1]? = some invocation ∧ invocation.args = ["-g".toList, "././g".toList] ∧
      HandsGrammar dottedOptions.layout invocation := by
  let := PatternLibrary.lenient
  refine ⟨_, _, invocations_of_run_dottedOptions, rfl, rfl, ?_⟩
  apply (handsGrammar_of_run_iff dottedOptions quietRunner ⟨smallProject, 0, []⟩
    invocations_of_run_dottedOptions rfl).mpr
  exact .inr (.inr (by decide))

def nestedOptions : Options where
  layout := ⟨⟨['r']⟩, ⟨['a']⟩, ⟨['p']⟩, ⟨['c']⟩, ⟨['g']⟩⟩

def nestedProject : FileSystem where
  entries := [(["r".toList], .directory),
    (["r".toList, "a".toList], .file (.text "// RULES START\n// RULES END\nf".toList) false)]
  workingDirectory := []

theorem invocations_of_run_nestedOptions :
    letI := PatternLibrary.lenient
    Event.invocations (run nestedOptions quietRunner ⟨nestedProject, 0, []⟩).2.journal =
      [⟨"make".toList, ["-B".toList], ⟨['r']⟩⟩,
        ⟨"./nailgun".toList, ["-g".toList, "r/g".toList], ⟨['r']⟩⟩] := by
  decide +kernel

/-- The compiler runs in `r` and is handed `r/g`, which it reads as `r/r/g`. -/
theorem exists_not_handsGrammar :
    letI := PatternLibrary.lenient
    ∃ invocation,
      (Event.invocations (run nestedOptions quietRunner ⟨nestedProject, 0, []⟩).2.journal)[1]? =
        some invocation ∧
      ¬ HandsGrammar nestedOptions.layout invocation := by
  rw [invocations_of_run_nestedOptions]
  exact ⟨_, rfl, by decide⟩

end Refresh

end ParserRefresh
