import ParserRefresh.Proofs.DeclarationGrammar

/-! # Spellings of declarations

A declaration can be spelled in many ways, but a line spells one declaration at most, and in one
way: where each part ends is settled by the characters that it may hold. Of the spellings of a
declaration one is plain, with a space where there has to be white space, and none elsewhere. -/

namespace ParserRefresh.Declaration

open Text

/-! ## One spelling to a line -/

/-- White space ends where something else starts. -/
theorem gap_inj {gap gap' rest more : Text} {c d : Char} (blank : isBlank gap = true)
    (content : isSpace c = false) (blank' : isBlank gap' = true) (content' : isSpace d = false)
    (same : gap ++ c :: rest = gap' ++ d :: more) : gap = gap' ∧ c :: rest = d :: more :=
  append_cons_inj (isBlank_iff.mp blank) content (isBlank_iff.mp blank') content' same

/-- Attributes end where a text starts that is neither white space nor an attribute. -/
theorem attributesText_inj {entries entries' : List (Text × Text)}
    (formed : ∀ entry ∈ entries, IsAttribute entry.1 ∧ isBlank entry.2 = true)
    (formed' : ∀ entry ∈ entries', IsAttribute entry.1 ∧ isBlank entry.2 = true)
    {c d : Char} {rest more : Text} (content : isSpace c = false) (noHash : c ≠ '#')
    (content' : isSpace d = false) (noHash' : d ≠ '#')
    (same : attributesText entries ++ c :: rest = attributesText entries' ++ d :: more) :
    entries = entries' ∧ c :: rest = d :: more := by
  induction entries generalizing entries' with
  | nil =>
    cases entries' with
    | nil => exact ⟨rfl, same⟩
    | cons entry' entries' =>
      obtain ⟨⟨inner, -, written⟩, -⟩ := formed' entry' List.mem_cons_self
      simp only [attributesText, List.flatMap_cons, written, List.cons_append] at same
      exact absurd (List.cons.inj same).1 noHash
  | cons entry entries ih =>
    obtain ⟨shape, blank⟩ := formed entry List.mem_cons_self
    cases entries' with
    | nil =>
      obtain ⟨inner, -, written⟩ := shape
      simp only [attributesText, List.flatMap_cons, written, List.cons_append] at same
      exact absurd (List.cons.inj same).1.symm noHash'
    | cons entry' entries' =>
      obtain ⟨shape', blank'⟩ := formed' entry' List.mem_cons_self
      have later := fun other member => formed other (List.mem_cons_of_mem entry member)
      have later' := fun other member => formed' other (List.mem_cons_of_mem entry' member)
      simp only [attributesText, List.flatMap_cons, List.append_assoc] at same
      have taken := (attribute?_eq_some_iff.mpr ⟨shape, rfl⟩).symm.trans
        ((congrArg attribute? same).trans (attribute?_eq_some_iff.mpr ⟨shape', rfl⟩))
      obtain ⟨written, behind⟩ := Prod.mk.inj (Option.some.inj taken)
      obtain ⟨e, tail, content₁, start⟩ := exists_cons_attributesText later content rest
      obtain ⟨e', tail', content₂, start'⟩ := exists_cons_attributesText later' content' more
      rw [← attributesText, ← attributesText, start, start'] at behind
      obtain ⟨gap, others⟩ := gap_inj blank content₁ blank' content₂ behind
      rw [← start, ← start'] at others
      obtain ⟨rfl, ends⟩ := ih later later' others
      exact ⟨by rw [Prod.ext written gap], ends⟩

/-- A visibility ends where the letter of another word starts. -/
theorem visibilityText_inj {entry entry' : Option (Text × Text)}
    (formed : ∀ parts ∈ entry, IsScope parts.1 ∧ isBlank parts.2 = true ∧ parts.2 ≠ [])
    (formed' : ∀ parts ∈ entry', IsScope parts.1 ∧ isBlank parts.2 = true ∧ parts.2 ≠ [])
    {rest more : Text}
    (same : visibilityText entry ++ 'm' :: rest = visibilityText entry' ++ 'm' :: more) :
    entry = entry' ∧ rest = more := by
  have content : isSpace 'm' = false := by decide
  cases entry with
  | none =>
    cases entry' with
    | none => exact ⟨rfl, (List.cons.inj same).2⟩
    | some parts' => exact absurd (List.cons.inj same).1 (by decide)
  | some parts =>
    cases entry' with
    | none => exact absurd (List.cons.inj same).1 (by decide)
    | some parts' =>
      obtain ⟨scope, gap⟩ := parts
      obtain ⟨scope', gap'⟩ := parts'
      obtain ⟨shape, blank, -⟩ := formed _ rfl
      obtain ⟨shape', blank', -⟩ := formed' _ rfl
      simp only [visibilityText, List.append_assoc, List.append_cancel_left_eq] at same
      have read := congrArg restriction same
      rw [restriction_append_of_isScope shape blank content (by decide),
        restriction_append_of_isScope shape' blank' content (by decide)] at read
      obtain ⟨rfl, behind⟩ := Prod.mk.inj read
      obtain ⟨rfl, word⟩ := gap_inj blank content blank' content behind
      exact ⟨rfl, (List.cons.inj word).2⟩

/-- A restriction has one division into white space and what its parentheses hold. -/
theorem restriction_existsUnique {scope : Text} (formed : IsScope scope) (some : scope ≠ []) :
    ∃! parts : Text × Text, isBlank parts.1 = true ∧ ')' ∉ parts.2 ∧
      scope = parts.1 ++ '(' :: (parts.2 ++ [')']) := by
  obtain ⟨gap, inner, blank, free, rfl⟩ := formed.resolve_left some
  refine ⟨(gap, inner), ⟨blank, free, rfl⟩, ?_⟩
  rintro ⟨gap', inner'⟩ ⟨blank', -, same⟩
  obtain ⟨rfl, held⟩ := gap_inj blank (by decide) blank' (by decide) same
  rw [List.append_cancel_right (List.cons.inj held).2]

namespace Spelling

/-- The parts around the name of two spellings of one text agree. -/
theorem nameText_inj {left right : Spelling} (same : left.nameText = right.nameText) :
    left.afterWord = right.afterWord ∧ left.name = right.name ∧
      left.afterName = right.afterName ∧ left.ending = right.ending := by
  have semicolon : isSpace ';' = false := by decide
  have spaced := List.append_cancel_left same
  obtain ⟨space, -⟩ := left.afterWord_space
  obtain ⟨space', -⟩ := right.afterWord_space
  -- The white space in front of a name is what is trimmed off.
  have named := congrArg trimStart spaced
  rw [trimStart_append_of_isBlank space, trimStart_append_of_isBlank space',
    trimStart_name left.name_formed, trimStart_name right.name_formed] at named
  rw [named] at spaced
  have word := List.append_cancel_right spaced
  obtain ⟨c, rest, behind, stops⟩ := exists_cons_of_gap left.afterName_space left.ending
  obtain ⟨c', rest', behind', stops'⟩ := exists_cons_of_gap right.afterName_space right.ending
  rw [behind, behind'] at named
  have read := congrArg name? named
  rw [name?_eq_some left.name_formed stops, name?_eq_some right.name_formed stops',
    ← behind, ← behind'] at read
  obtain ⟨name, tail⟩ := Prod.mk.inj (Option.some.inj read)
  obtain ⟨gap, ending⟩ :=
    gap_inj left.afterName_space semicolon right.afterName_space semicolon tail
  exact ⟨word, name, gap, (List.cons.inj ending).2⟩

/-- A text has one spelling at most. -/
theorem text_injective {left right : Spelling} (same : left.text = right.text) : left = right := by
  have notIndent : ∀ c, isSpace c = false → isIndent c = false := fun c content =>
    Bool.eq_false_iff.mpr fun space => by rw [isSpace_of_isIndent space] at content; cases content
  obtain ⟨c, rest, content, start⟩ := left.exists_cons
  obtain ⟨c', rest', content', start'⟩ := right.exists_cons
  rw [text, text, start, start'] at same
  obtain ⟨indent, behind⟩ := append_cons_inj left.indent_spaces (notIndent c content)
    right.indent_spaces (notIndent c' content') same
  obtain ⟨d, more, letter, noHash, word⟩ := left.exists_cons_behind_attributes
  obtain ⟨d', more', letter', noHash', word'⟩ := right.exists_cons_behind_attributes
  rw [← start, ← start', word, word'] at behind
  obtain ⟨attributes, shown⟩ := attributesText_inj left.attributes_formed right.attributes_formed
    letter noHash letter' noHash' behind
  obtain ⟨tail, named⟩ := left.nameText_eq_cons
  obtain ⟨tail', named'⟩ := right.nameText_eq_cons
  rw [← word, ← word', named, named'] at shown
  obtain ⟨visibility, last⟩ :=
    visibilityText_inj left.visibility_formed right.visibility_formed shown
  have names : left.nameText = right.nameText := by rw [named, named', last]
  obtain ⟨afterWord, name, afterName, ending⟩ := nameText_inj names
  cases left
  cases right
  dsimp only at indent attributes visibility afterWord name afterName ending
  subst indent attributes visibility afterWord name afterName ending
  rfl

/-- The spelling with one space behind each attribute, behind the visibility and behind the word
`mod`, and with no other white space. -/
def tidied (spelling : Spelling) : Spelling where
  indent := spelling.indent
  attributes := spelling.attributes.map fun entry => (entry.1, [' '])
  visibility := spelling.visibility.map fun entry => (entry.1, [' '])
  afterWord := [' ']
  name := spelling.name
  afterName := []
  ending := []
  indent_spaces := spelling.indent_spaces
  attributes_formed := by
    intro entry member
    obtain ⟨source, listed, rfl⟩ := List.mem_map.mp member
    exact ⟨(spelling.attributes_formed source listed).1, rfl⟩
  visibility_formed := by
    intro entry member
    obtain ⟨source, shown, rfl⟩ := Option.map_eq_some_iff.mp member
    exact ⟨(spelling.visibility_formed source shown).1, rfl, List.cons_ne_nil _ _⟩
  afterWord_space := ⟨by decide, by decide⟩
  name_formed := spelling.name_formed
  afterName_space := isBlank_nil
  ending_space := isBlank_nil

theorem declaration_tidied (spelling : Spelling) (number : Nat) :
    spelling.tidied.declaration number = spelling.declaration number := by
  simp [declaration, tidied, Function.comp_def]

end Spelling

/-! ## Writing a declaration -/

def written (declaration : Declaration) : Text :=
  let visibility := match declaration.visibility with
    | some visibility => visibility ++ [' ']
    | none => []
  declaration.indent ++ declaration.attributes.flatMap (· ++ [' ']) ++ visibility ++
    "mod ".toList ++ declaration.name ++ [';']

theorem Spelling.text_tidied (spelling : Spelling) (number : Nat) :
    spelling.tidied.text = (spelling.declaration number).written := by
  have attributes : attributesText spelling.tidied.attributes =
      (spelling.declaration number).attributes.flatMap (· ++ [' ']) := by
    simp [attributesText, tidied, declaration, List.flatMap_map]
  rw [text, attributes]
  cases shown : spelling.visibility <;>
    simp [written, declaration, tidied, nameText, visibilityText, shown]

/-- A declaration that was read from a line is read from the line that is written for it. -/
theorem parse?_written {line : Text} {number : Nat} {declaration : Declaration}
    (found : parse? line number = some declaration) :
    parse? declaration.written number = some declaration := by
  obtain ⟨spelling, -, rfl⟩ := parse?_eq_some_iff_spelling.mp found
  exact parse?_eq_some_iff_spelling.mpr
    ⟨spelling.tidied, spelling.text_tidied number, spelling.declaration_tidied number⟩

/-- A line is a declaration exactly if it has a spelling, whose parts are then those of the
declaration. It has one spelling at most, and a restriction in it is divided in one way. The
declaration is read again from the line that is written for it. -/
theorem parse?_iff_spelled_once (line : Text) (number : Nat) :
    (∀ declaration, parse? line number = some declaration ↔
      ∃ spelling : Spelling, spelling.text = line ∧ spelling.declaration number = declaration) ∧
    (∀ left right : Spelling, left.text = line → right.text = line → left = right) ∧
    (∀ spelling : Spelling, spelling.text = line → ∀ entry ∈ spelling.visibility, entry.1 ≠ [] →
      ∃! parts : Text × Text, isBlank parts.1 = true ∧ ')' ∉ parts.2 ∧
        entry.1 = parts.1 ++ '(' :: (parts.2 ++ [')'])) ∧
    ∀ declaration, parse? line number = some declaration →
      parse? declaration.written number = some declaration := by
  refine ⟨fun _ => parse?_eq_some_iff_spelling, ?_, ?_, fun _ => parse?_written⟩
  · intro left right written written'
    exact Spelling.text_injective (written.trans written'.symm)
  · intro spelling _ entry shown some
    exact restriction_existsUnique (spelling.visibility_formed entry shown).1 some

def nestedLine : Text := "\t#[a]#[mod x;] \t pub (pub mod y;)\tmod  node_1 ; ".toList

def nestedDeclaration : Declaration where
  indent := ['\t']
  attributes := ["#[a]".toList, "#[mod x;]".toList]
  visibility := some "pub (pub mod y;)".toList
  name := "node_1".toList
  line := 7

theorem parse?_iff_spelled_once_nestedLine :
    parse? nestedLine 7 = some nestedDeclaration ∧
      nestedDeclaration.written = "\t#[a] #[mod x;] pub (pub mod y;) mod node_1;".toList ∧
      parse? nestedDeclaration.written 7 = some nestedDeclaration ∧
      ∃! spelling : Spelling, spelling.text = nestedLine := by
  have found : parse? nestedLine 7 = some nestedDeclaration := by decide +kernel
  obtain ⟨spelled, once, -, again⟩ := parse?_iff_spelled_once nestedLine 7
  obtain ⟨spelling, whole, -⟩ := (spelled _).mp found
  exact ⟨found, by decide, again _ found, spelling, whole, fun other same => once _ _ same whole⟩

end ParserRefresh.Declaration
