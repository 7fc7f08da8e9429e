import ParserRefresh.Proofs.SingleWalk

/-! # Inlined texts

A text is flat when none of its lines declares a module. Inlining ends in a flat text, and flat
texts are those that inlining leaves as they are. So a text that has been inlined can be inlined
again, in whatever tree and from whatever path, and nothing happens. -/

namespace ParserRefresh.Modules

open Text Declaration

variable {files : FileSystem} {unit text out : Text} {path : Path}

/-- A text without a module declaration. -/
def Flat (text : Text) : Prop := ∀ row ∈ lines text, ∀ number, parse? row number = none

/-- Of a flat text no file is looked for. -/
theorem inline_of_flat (flat : Flat text) : inline files unit path text = .ok text := by
  have undeclared : (lines text).any (fun row => (parse? row 0).isSome) = false := by
    rw [List.any_eq_false]
    intro row member
    rw [flat row member 0]
    exact Bool.false_ne_true
  rw [inline, inlineLines_of_undeclared undeclared]
  exact congrArg Except.ok (unlines_lines text)

theorem flat_of_inline (spaces : ∀ c ∈ unit, isIndent c = true)
    (done : inline files unit path text = .ok out) : Flat out := by
  obtain ⟨rows, inlined, rfl⟩ := map_eq_ok_iff.mp done
  have plain : ∀ row ∈ rows, IsPlain row :=
    isPlain_of_mem_inlineLines spaces (fun _ => isLine_of_mem_lines) inlined
  intro row member
  rw [← forall_mem_lines_unlines isPlain_nil (fun row there => (plain row there).1)] at plain
  exact (plain row member).2

/-- The texts that inlining does not change are the flat ones. -/
theorem inline_eq_self_iff (spaces : ∀ c ∈ unit, isIndent c = true) :
    inline files unit path text = .ok text ↔ Flat text :=
  ⟨flat_of_inline spaces, inline_of_flat⟩

/-- Inlining leaves no declaration, and what it leaves is not changed by inlining again, from
whatever path, and even when the files or the indentation of a level have changed. -/
theorem inline_inline (spaces : ∀ c ∈ unit, isIndent c = true)
    (done : inline files unit path text = .ok out) :
    (∀ row ∈ lines out, ∀ number, parse? row number = none) ∧
      ∀ (tree : FileSystem) (level : Text) (other : Path), inline tree level other out = .ok out := by
  have flat : Flat out := flat_of_inline spaces done
  constructor
  · exact flat
  · intro tree level other
    exact inline_of_flat flat

theorem inline_inline_twoLevels :
    ∃ out, (∀ c ∈ "\t".toList, isIndent c = true) ∧
      inline twoLevels "\t".toList ⟨"parser.rs".toList⟩ "  #[mod x;] pub mod a;\r\n".toList =
        .ok out ∧
      (∀ row ∈ lines out, ∀ number, parse? row number = none) ∧
      inline twoLevels "\t".toList ⟨"a/mod.rs".toList⟩ out = .ok out := by
  have spaces : ∀ c ∈ "\t".toList, isIndent c = true := by simp [isIndent]
  have inlined : inline twoLevels "\t".toList ⟨"parser.rs".toList⟩
      "  #[mod x;] pub mod a;\r\n".toList =
      .ok ("  #[mod x;]\n  pub mod a \x7b\n  \t// A\n\n  \t\tmod b \x7b\n".toList ++
        "  \t\t\tfn b();\n\n  \t\t\t fn c();\n  \t\t\x7d\n  \tfn a();\n  \x7d\n".toList) := by
    decide +kernel
  obtain ⟨flat, again⟩ := inline_inline spaces inlined
  exact ⟨_, spaces, inlined, flat, again _ _ _⟩

end ParserRefresh.Modules
