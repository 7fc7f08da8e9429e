import ParserRefresh.Proofs.WhiteSpace
import ParserRefresh.Source.Declaration

/-! # The grammar of module declarations

A declaration is spelled as its indentation, its attributes with white space behind each, its
visibility with white space behind it, the word `mod`, white space, the name, and a semicolon
that white space may surround. Reading a line finds a spelling of it, and every spelling is read
back. -/

namespace ParserRefresh.Declaration

open Text

/-- An attribute with its brackets. -/
def IsAttribute (written : Text) : Prop :=
  ∃ inner : Text, ']' ∉ inner ∧ written = '#' :: '[' :: (inner ++ [']'])

/-- What may follow the word `pub` directly: nothing, or a restriction in parentheses. -/
def IsScope (scope : Text) : Prop :=
  scope = [] ∨ ∃ gap inner : Text, isBlank gap = true ∧ ')' ∉ inner ∧
    scope = gap ++ '(' :: (inner ++ [')'])

/-- A name of ASCII letters, digits and underscores that does not start with a digit. -/
def IsName (name : Text) : Prop :=
  ∃ (c : Char) (rest : Text), isNameStart c = true ∧ (∀ d ∈ rest, isNameChar d = true) ∧
    name = c :: rest

/-- The parts of a line that declares a module. -/
structure Spelling where
  indent : Text
  /-- Each attribute, and the white space behind it. -/
  attributes : List (Text × Text)
  /-- What follows the word `pub`, and the white space behind that. -/
  visibility : Option (Text × Text)
  afterWord : Text
  name : Text
  afterName : Text
  ending : Text
  indent_spaces : ∀ c ∈ indent, isIndent c = true
  attributes_formed : ∀ entry ∈ attributes, IsAttribute entry.1 ∧ isBlank entry.2 = true
  visibility_formed : ∀ entry ∈ visibility,
    IsScope entry.1 ∧ isBlank entry.2 = true ∧ entry.2 ≠ []
  afterWord_space : isBlank afterWord = true ∧ afterWord ≠ []
  name_formed : IsName name
  afterName_space : isBlank afterName = true
  ending_space : isBlank ending = true

def attributesText (attributes : List (Text × Text)) : Text :=
  attributes.flatMap (fun entry => entry.1 ++ entry.2)

def visibilityText (visibility : Option (Text × Text)) : Text :=
  match visibility with
  | none => []
  | some (scope, gap) => "pub".toList ++ (scope ++ gap)

def Spelling.nameText (spelling : Spelling) : Text :=
  "mod".toList ++ (spelling.afterWord ++ (spelling.name ++ (spelling.afterName ++
    ';' :: spelling.ending)))

def Spelling.text (spelling : Spelling) : Text :=
  spelling.indent ++ (attributesText spelling.attributes ++
    (visibilityText spelling.visibility ++ spelling.nameText))

def Spelling.declaration (spelling : Spelling) (number : Nat) : Declaration where
  indent := spelling.indent
  attributes := spelling.attributes.map Prod.fst
  visibility := spelling.visibility.map (fun entry => "pub".toList ++ entry.1)
  name := spelling.name
  line := number

/-! ## Reading the parts -/

theorem notMem_takeWhile_ne (c : Char) (text : Text) : c ∉ text.takeWhile (· != c) := by
  intro inside
  have other := List.mem_takeWhile_imp inside
  simp at other

theorem ne_of_notMem {c : Char} {inner : Text} (free : c ∉ inner) :
    ∀ d ∈ inner, (d != c) = true := by
  intro d member
  rw [bne_iff_ne]
  rintro rfl
  exact free member

theorem attribute?_eq_some_iff {text taken rest : Text} :
    attribute? text = some (taken, rest) ↔ IsAttribute taken ∧ text = taken ++ rest := by
  constructor
  · intro found
    refine ⟨?_, (attribute?_append found).2.symm⟩
    unfold attribute? at found
    split at found
    · next inner =>
      split at found
      · next after cut =>
        simp only [Option.some.injEq, Prod.mk.injEq] at found
        exact ⟨_, notMem_takeWhile_ne _ _, found.1.symm⟩
      · cases found
    · cases found
  · rintro ⟨⟨inner, free, rfl⟩, rfl⟩
    simp only [List.cons_append, List.append_assoc, attribute?]
    rw [dropWhile_append_cons (ne_of_notMem free) (by simp),
      takeWhile_append_cons (ne_of_notMem free) (by simp)]
    simp

theorem attribute?_eq_none_of_head {c : Char} (other : c ≠ '#') (text : Text) :
    attribute? (c :: text) = none := by
  unfold attribute?
  split
  · next same => exact absurd (List.cons.inj same).1 other
  · rfl

theorem readAttributes_of_eq_none {text : Text} (absent : attribute? text = none) :
    readAttributes text = ([], text) := by
  rw [readAttributes]
  split
  · rfl
  · next found => rw [absent] at found; cases found

theorem readAttributes_of_eq_some {text taken rest : Text}
    (found : attribute? text = some (taken, rest)) :
    readAttributes text =
      (taken :: (readAttributes (trimStart rest)).1, (readAttributes (trimStart rest)).2) := by
  rw [readAttributes]
  split
  · next absent => rw [absent] at found; cases found
  · next first after here =>
    rw [found] at here
    cases here
    rfl

/-- The attributes that are read stand at the start of the text, each with white space behind
it. -/
theorem exists_readAttributes (text : Text) :
    ∃ entries, (∀ entry ∈ entries, IsAttribute entry.1 ∧ isBlank entry.2 = true) ∧
      entries.map Prod.fst = (readAttributes text).1 ∧
      attributesText entries ++ (readAttributes text).2 = text := by
  induction text using readAttributes.induct with
  | case1 text absent =>
    rw [readAttributes_of_eq_none absent]
    exact ⟨[], by simp, rfl, rfl⟩
  | case2 text taken rest found _ _ _ ih =>
    obtain ⟨entries, formed, names, whole⟩ := ih
    obtain ⟨shape, parts⟩ := attribute?_eq_some_iff.mp found
    have gap : isBlank (rest.takeWhile isSpace) = true :=
      isBlank_iff.mpr (fun _ => List.mem_takeWhile_imp)
    rw [readAttributes_of_eq_some found]
    refine ⟨(taken, rest.takeWhile isSpace) :: entries, ?_, by simp [names], ?_⟩
    · intro entry member
      rcases List.mem_cons.mp member with rfl | later
      · exact ⟨shape, gap⟩
      · exact formed entry later
    · have spaces := trimStart_eq_drop rest
      rw [attributesText, List.flatMap_cons, ← attributesText, List.append_assoc, List.append_assoc,
        whole, spaces, parts]

/-- Attributes do not start with white space. -/
theorem exists_cons_attributesText {entries : List (Text × Text)}
    (formed : ∀ entry ∈ entries, IsAttribute entry.1 ∧ isBlank entry.2 = true) {c : Char}
    (content : isSpace c = false) (rest : Text) :
    ∃ (d : Char) (more : Text), isSpace d = false ∧
      attributesText entries ++ c :: rest = d :: more := by
  cases entries with
  | nil => exact ⟨c, rest, content, rfl⟩
  | cons entry entries =>
    obtain ⟨⟨inner, -, written⟩, -⟩ := formed entry List.mem_cons_self
    simp only [attributesText, List.flatMap_cons, written, List.cons_append]
    exact ⟨'#', _, by decide, rfl⟩

/-- Attributes are read back, up to a text that starts with neither white space nor an
attribute. -/
theorem readAttributes_attributesText {entries : List (Text × Text)}
    (formed : ∀ entry ∈ entries, IsAttribute entry.1 ∧ isBlank entry.2 = true)
    {rest : Text} (content : trimStart rest = rest) (absent : attribute? rest = none) :
    readAttributes (attributesText entries ++ rest) = (entries.map Prod.fst, rest) := by
  induction entries with
  | nil => exact readAttributes_of_eq_none absent
  | cons entry entries ih =>
    obtain ⟨⟨inner, free, written⟩, gap⟩ := formed entry List.mem_cons_self
    have later := ih (fun other member => formed other (List.mem_cons_of_mem _ member))
    have found : attribute? (attributesText (entry :: entries) ++ rest) =
        some (entry.1, entry.2 ++ (attributesText entries ++ rest)) :=
      attribute?_eq_some_iff.mpr ⟨⟨inner, free, written⟩, by simp [attributesText]⟩
    have skipped : trimStart (attributesText entries ++ rest) = attributesText entries ++ rest := by
      cases entries with
      | nil => exact content
      | cons next others =>
        obtain ⟨⟨inner, -, written⟩, -⟩ := formed next (by simp)
        simp [attributesText, written, trimStart_cons, isSpace]
    rw [readAttributes_of_eq_some found, trimStart_append_of_isBlank gap, skipped, later]
    rfl

/-! ## Reading a visibility -/

theorem restriction_append (text : Text) :
    IsScope (restriction text).1 ∧ (restriction text).1 ++ (restriction text).2 = text := by
  unfold restriction
  split
  · next inner opened =>
    split
    · next rest cut =>
      have spaces := trimStart_eq_drop text
      have parts := List.takeWhile_append_dropWhile (p := (· != ')')) (l := inner)
      rw [cut] at parts
      refine ⟨Or.inr ⟨text.takeWhile isSpace, inner.takeWhile (· != ')'), ?_,
        notMem_takeWhile_ne _ _, by simp⟩, ?_⟩
      · exact isBlank_iff.mpr (fun _ => List.mem_takeWhile_imp)
      · calc text.takeWhile isSpace ++ '(' :: inner.takeWhile (· != ')') ++ [')'] ++ rest
            = text.takeWhile isSpace ++
                '(' :: (inner.takeWhile (· != ')') ++ ')' :: rest) := by simp
          _ = text := by rw [parts, ← opened, spaces]
    · exact ⟨Or.inl rfl, rfl⟩
  · exact ⟨Or.inl rfl, rfl⟩

/-- A restriction is read back, up to white space that no parenthesis follows. -/
theorem restriction_append_of_isScope {scope gap rest : Text} {c : Char} (formed : IsScope scope)
    (space : isBlank gap = true) (content : isSpace c = false) (other : c ≠ '(') :
    restriction (scope ++ (gap ++ c :: rest)) = (scope, gap ++ c :: rest) := by
  rcases formed with rfl | ⟨start, inner, blank, free, rfl⟩
  · unfold restriction
    rw [List.nil_append, trimStart_append_cons space content]
    split
    · next same => exact absurd (List.cons.inj same).1 other
    · rfl
  · have opened : isSpace '(' = false := by decide
    have shape : start ++ '(' :: (inner ++ [')']) ++ (gap ++ c :: rest) =
        start ++ '(' :: (inner ++ ')' :: (gap ++ c :: rest)) := by simp
    have cut : (inner ++ ')' :: (gap ++ c :: rest)).dropWhile (· != ')') =
        ')' :: (gap ++ c :: rest) := dropWhile_append_cons (ne_of_notMem free) (by simp)
    have taken : (inner ++ ')' :: (gap ++ c :: rest)).takeWhile (· != ')') = inner :=
      takeWhile_append_cons (ne_of_notMem free) (by simp)
    simp only [shape, restriction, trimStart_append_cons blank opened, cut, taken,
      takeWhile_append_cons (isBlank_iff.mp blank) opened]
    simp

theorem skipSpaces?_eq_some_iff {text rest : Text} :
    skipSpaces? text = some rest ↔
      trimStart rest = rest ∧ ∃ gap, isBlank gap = true ∧ gap ≠ [] ∧ text = gap ++ rest := by
  unfold skipSpaces?
  constructor
  · intro found
    split at found
    · cases found
    · next c after =>
      split at found
      · next space =>
        cases found
        have blank : isBlank (after.takeWhile isSpace) = true :=
          isBlank_iff.mpr (fun _ => List.mem_takeWhile_imp)
        refine ⟨List.dropWhile_idempotent _ _, c :: after.takeWhile isSpace, ?_, by simp, ?_⟩
        · rw [isBlank_cons, space, blank]
          rfl
        · rw [List.cons_append, trimStart_eq_drop]
      · cases found
  · rintro ⟨content, gap, blank, filled, rfl⟩
    cases gap with
    | nil => exact absurd rfl filled
    | cons c gap =>
      rw [isBlank_cons, Bool.and_eq_true] at blank
      simp only [List.cons_append]
      rw [if_pos blank.1, trimStart_append_of_isBlank blank.2, content]

/-- A visibility that is read stands at the start of the text. -/
theorem exists_visibility? {text rest : Text} {visibility : Option Text}
    (found : visibility? text = some (visibility, rest)) :
    ∃ entry, (∀ parts ∈ entry, IsScope parts.1 ∧ isBlank parts.2 = true ∧ parts.2 ≠ []) ∧
      entry.map (fun parts => "pub".toList ++ parts.1) = visibility ∧
      visibilityText entry ++ rest = text := by
  unfold visibility? at found
  split at found
  · cases found
    exact ⟨none, by simp, rfl, rfl⟩
  · next afterPub word =>
    have whole := restriction_append afterPub
    cases read : restriction afterPub with
    | mk scope after =>
      rw [read] at found whole
      obtain ⟨last, skipped, same⟩ := Option.map_eq_some_iff.mp found
      cases same
      obtain ⟨-, gap, blank, filled, parts⟩ := skipSpaces?_eq_some_iff.mp skipped
      refine ⟨some (scope, gap), ?_, rfl, ?_⟩
      · intro entry member
        cases member
        exact ⟨whole.1, blank, filled⟩
      · rw [after?_eq_some_iff.mp word, ← whole.2, parts]
        simp [visibilityText]

/-- A visibility is read back, up to a text that starts like no visibility. -/
theorem visibility?_visibilityText {entry : Option (Text × Text)}
    (formed : ∀ parts ∈ entry, IsScope parts.1 ∧ isBlank parts.2 = true ∧ parts.2 ≠ [])
    (rest : Text) :
    visibility? (visibilityText entry ++ 'm' :: rest) =
      some (entry.map (fun parts => "pub".toList ++ parts.1), 'm' :: rest) := by
  have content : isSpace 'm' = false := by decide
  cases entry with
  | none => rfl
  | some parts =>
    obtain ⟨scope, gap⟩ := parts
    obtain ⟨shape, blank, filled⟩ := formed _ rfl
    have word : after? "pub".toList (visibilityText (some (scope, gap)) ++ 'm' :: rest) =
        some (scope ++ (gap ++ 'm' :: rest)) :=
      after?_eq_some_iff.mpr (by simp [visibilityText])
    have skipped : skipSpaces? (gap ++ 'm' :: rest) = some ('m' :: rest) :=
      skipSpaces?_eq_some_iff.mpr
        ⟨trimStart_append_cons isBlank_nil content, gap, blank, filled, rfl⟩
    rw [visibility?, word]
    dsimp only
    rw [restriction_append_of_isScope shape blank content (by decide)]
    dsimp only
    rw [skipped]
    rfl

/-! ## Reading a name -/

theorem isNameChar_of_isSpace {c : Char} (space : isSpace c = true) : isNameChar c = false := by
  have other := forall_isSpace (p := fun c => !isNameChar c) (by decide) space
  simpa using other

/-- What stands behind the name and up to the end is no part of the name. -/
theorem exists_cons_of_gap {gap : Text} (blank : isBlank gap = true) (ending : Text) :
    ∃ (c : Char) (rest : Text), gap ++ ';' :: ending = c :: rest ∧ isNameChar c = false := by
  cases gap with
  | nil => exact ⟨';', ending, rfl, by decide⟩
  | cons c gap =>
    rw [isBlank_cons, Bool.and_eq_true] at blank
    exact ⟨c, gap ++ ';' :: ending, rfl, isNameChar_of_isSpace blank.1⟩

theorem trimStart_name {name : Text} (formed : IsName name) (rest : Text) :
    trimStart (name ++ rest) = name ++ rest := by
  obtain ⟨first, others, start, -, rfl⟩ := formed
  have char : isNameChar first = true := by
    simp only [isNameStart, isNameChar, Char.isAlphanum, Bool.or_eq_true] at start ⊢
    rcases start with under | letter
    · exact Or.inl under
    · exact Or.inr (Or.inl letter)
  have content : isSpace first = false := by
    cases space : isSpace first with
    | false => rfl
    | true => rw [isNameChar_of_isSpace space] at char; cases char
  exact trimStart_append_cons isBlank_nil content

theorem name?_eq_some {name rest : Text} {c : Char} (formed : IsName name)
    (stops : isNameChar c = false) : name? (name ++ c :: rest) = some (name, c :: rest) := by
  obtain ⟨first, others, start, chars, rfl⟩ := formed
  rw [List.cons_append, name?, if_pos start, takeWhile_append_cons chars stops,
    dropWhile_append_cons chars stops]

theorem name?_append {text name rest : Text} (found : name? text = some (name, rest)) :
    IsName name ∧ text = name ++ rest := by
  cases text with
  | nil => cases found
  | cons c text =>
    rw [name?] at found
    split at found
    · next start =>
      cases found
      refine ⟨⟨c, _, start, fun _ => List.mem_takeWhile_imp, rfl⟩, ?_⟩
      rw [List.cons_append, List.takeWhile_append_dropWhile]
    · cases found

theorem declaredName?_eq_some_iff {text name : Text} :
    declaredName? text = some name ↔ IsName name ∧ ∃ afterWord afterName ending,
      isBlank afterWord = true ∧ afterWord ≠ [] ∧ isBlank afterName = true ∧
      isBlank ending = true ∧
      text = "mod".toList ++ (afterWord ++ (name ++ (afterName ++ ';' :: ending))) := by
  constructor
  · intro found
    simp only [declaredName?, Option.bind_eq_bind, Option.bind_eq_some_iff] at found
    obtain ⟨afterMod, word, spaced, skipped, ⟨read, afterName⟩, named, rest, semicolon, last⟩ :=
      found
    split at last
    · next blank =>
      cases last
      obtain ⟨formed, parts⟩ := name?_append named
      obtain ⟨-, gap, space, filled, front⟩ := skipSpaces?_eq_some_iff.mp skipped
      have behind := trimStart_eq_drop afterName
      rw [after?_eq_some_iff.mp semicolon] at behind
      refine ⟨formed, gap, afterName.takeWhile isSpace, rest, space, filled, ?_, blank, ?_⟩
      · exact isBlank_iff.mpr (fun _ => List.mem_takeWhile_imp)
      · rw [after?_eq_some_iff.mp word, front, parts]
        exact congrArg (fun tail => "mod".toList ++ (gap ++ (read ++ tail))) behind.symm
    · cases last
  · rintro ⟨formed, afterWord, afterName, ending, space, filled, gap, blank, rfl⟩
    obtain ⟨c, rest, behind, stops⟩ := exists_cons_of_gap gap ending
    have word : after? "mod".toList ("mod".toList ++ (afterWord ++ (name ++
        (afterName ++ ';' :: ending)))) =
        some (afterWord ++ (name ++ (afterName ++ ';' :: ending))) :=
      after?_eq_some_iff.mpr rfl
    have skipped : skipSpaces? (afterWord ++ (name ++ (afterName ++ ';' :: ending))) =
        some (name ++ (afterName ++ ';' :: ending)) :=
      skipSpaces?_eq_some_iff.mpr ⟨trimStart_name formed _, afterWord, space, filled, rfl⟩
    have named : name? (name ++ (afterName ++ ';' :: ending)) =
        some (name, afterName ++ ';' :: ending) := by
      rw [behind]
      exact name?_eq_some formed stops
    have semicolon : after? [';'] (trimStart (afterName ++ ';' :: ending)) = some ending := by
      rw [trimStart_append_cons gap (by decide)]
      exact after?_eq_some_iff.mpr rfl
    simp only [declaredName?, word, skipped, named, semicolon, blank, Option.bind_eq_bind,
      Option.bind_some, if_true]

/-! ## Reading a whole line -/

theorem Spelling.nameText_eq_cons (spelling : Spelling) :
    ∃ rest, spelling.nameText = 'm' :: rest := ⟨_, rfl⟩

/-- What follows the attributes starts with a letter. -/
theorem Spelling.exists_cons_behind_attributes (spelling : Spelling) :
    ∃ (c : Char) (rest : Text), isSpace c = false ∧ c ≠ '#' ∧
      visibilityText spelling.visibility ++ spelling.nameText = c :: rest := by
  cases spelling.visibility with
  | none => exact ⟨'m', _, by decide, by decide, rfl⟩
  | some entry => exact ⟨'p', _, by decide, by decide, rfl⟩

/-- What follows the indentation starts with no white space. -/
theorem Spelling.exists_cons (spelling : Spelling) :
    ∃ (c : Char) (rest : Text), isSpace c = false ∧ attributesText spelling.attributes ++
      (visibilityText spelling.visibility ++ spelling.nameText) = c :: rest := by
  obtain ⟨c, rest, content, -, whole⟩ := spelling.exists_cons_behind_attributes
  rw [whole]
  exact exists_cons_attributesText spelling.attributes_formed content rest

/-- A line is read as a declaration exactly when it is spelled like one, and the declaration has
the parts of the spelling. -/
theorem parse?_eq_some_iff_spelling {line : Text} {number : Nat} {declaration : Declaration} :
    parse? line number = some declaration ↔
      ∃ spelling : Spelling, spelling.text = line ∧ spelling.declaration number = declaration := by
  constructor
  · intro found
    simp only [parse?, Option.bind_eq_bind, Option.bind_eq_some_iff] at found
    obtain ⟨⟨visibility, rest⟩, seen, name, named, same⟩ := found
    obtain ⟨entries, attributes, listed, front⟩ := exists_readAttributes (line.dropWhile isIndent)
    obtain ⟨entry, visible, shown, middle⟩ := exists_visibility? seen
    obtain ⟨formed, afterWord, afterName, ending, space, filled, gap, blank, back⟩ :=
      declaredName?_eq_some_iff.mp named
    have spaces : ∀ c ∈ leading line, isIndent c = true := fun _ => List.mem_takeWhile_imp
    refine ⟨⟨leading line, entries, entry, afterWord, name, afterName, ending, spaces, attributes,
      visible, ⟨space, filled⟩, formed, gap, blank⟩, ?_, ?_⟩
    · calc leading line ++ (attributesText entries ++ (visibilityText entry ++
              ("mod".toList ++ (afterWord ++ (name ++ (afterName ++ ';' :: ending))))))
          = leading line ++ line.dropWhile isIndent := by rw [← back, middle, front]
        _ = line := List.takeWhile_append_dropWhile
    · rw [← Option.some.inj same, Spelling.declaration]
      dsimp only
      rw [listed, shown]
  · rintro ⟨spelling, rfl, rfl⟩
    obtain ⟨c, rest, content, start⟩ := spelling.exists_cons
    have indent : isIndent c = false := by
      cases space : isIndent c with
      | false => rfl
      | true => rw [isSpace_of_isIndent space] at content; cases content
    obtain ⟨tail, word⟩ := spelling.nameText_eq_cons
    have dropped : spelling.text.dropWhile isIndent = attributesText spelling.attributes ++
        (visibilityText spelling.visibility ++ spelling.nameText) := by
      rw [Spelling.text, start]
      exact dropWhile_append_cons spelling.indent_spaces indent
    have taken : leading spelling.text = spelling.indent := by
      rw [Spelling.text, start]
      exact takeWhile_append_cons spelling.indent_spaces indent
    have attributes : readAttributes (spelling.text.dropWhile isIndent) =
        (spelling.attributes.map Prod.fst,
          visibilityText spelling.visibility ++ spelling.nameText) := by
      obtain ⟨first, others, letter, noHash, behind⟩ := spelling.exists_cons_behind_attributes
      rw [dropped]
      apply readAttributes_attributesText spelling.attributes_formed
      · rw [behind]
        exact trimStart_append_cons isBlank_nil letter
      · rw [behind]
        exact attribute?_eq_none_of_head noHash others
    have visible : visibility? (visibilityText spelling.visibility ++ spelling.nameText) =
        some (spelling.visibility.map (fun entry => "pub".toList ++ entry.1),
          spelling.nameText) := by
      rw [word]
      exact visibility?_visibilityText spelling.visibility_formed tail
    have named : declaredName? spelling.nameText = some spelling.name :=
      declaredName?_eq_some_iff.mpr ⟨spelling.name_formed, spelling.afterWord, spelling.afterName,
        spelling.ending, spelling.afterWord_space.1, spelling.afterWord_space.2,
        spelling.afterName_space, spelling.ending_space, rfl⟩
    simp only [parse?, attributes, visible, named, taken, Option.bind_eq_bind, Option.bind_some]
    rfl

/-- The number of a line is noted in its declaration and has no part in the name. -/
theorem exists_parse?_renumbered {line : Text} {number : Nat} {declaration : Declaration}
    (declared : parse? line number = some declaration) (renumbered : Nat) :
    ∃ again, parse? line renumbered = some again ∧ again.name = declaration.name := by
  obtain ⟨spelling, whole, rfl⟩ := parse?_eq_some_iff_spelling.mp declared
  exact ⟨_, parse?_eq_some_iff_spelling.mpr ⟨spelling, whole, rfl⟩, rfl⟩

/-! ## White space around a declaration -/

def Spelling.front (spelling : Spelling) : Text :=
  spelling.indent ++ (attributesText spelling.attributes ++
    (visibilityText spelling.visibility ++ ("mod".toList ++ (spelling.afterWord ++
      (spelling.name ++ spelling.afterName)))))

theorem Spelling.text_eq_front (spelling : Spelling) :
    spelling.text = spelling.front ++ ';' :: spelling.ending := by
  simp [Spelling.text, Spelling.nameText, Spelling.front]

def Spelling.ended (spelling : Spelling) (ending : Text) (space : isBlank ending = true) :
    Spelling :=
  { spelling with ending := ending, ending_space := space }

theorem Spelling.trimEnd_text (spelling : Spelling) :
    trimEnd spelling.text = spelling.front ++ [';'] := by
  have content : isBlank (';' :: spelling.ending) = false := rfl
  rw [spelling.text_eq_front, trimEnd_append, content, if_neg Bool.false_ne_true,
    ← List.singleton_append, trimEnd_append_of_isBlank _ spelling.ending_space]
  rfl

/-- White space at the end of a line does not matter. -/
theorem parse?_trimEnd (line : Text) (number : Nat) :
    parse? (trimEnd line) number = parse? line number := by
  apply Option.ext
  intro declaration
  rw [parse?_eq_some_iff_spelling, parse?_eq_some_iff_spelling]
  constructor
  · rintro ⟨spelling, whole, rfl⟩
    obtain ⟨blank, space, rest⟩ := exists_trimEnd_append line
    have ending : isBlank (spelling.ending ++ blank) = true := by
      rw [isBlank_append, spelling.ending_space, space]
      rfl
    refine ⟨spelling.ended _ ending, ?_, rfl⟩
    calc (spelling.ended _ ending).text = spelling.text ++ blank := by
          rw [Spelling.text_eq_front, spelling.text_eq_front, List.append_assoc]
          rfl
      _ = line := by rw [whole, rest]
  · rintro ⟨spelling, rfl, rfl⟩
    refine ⟨spelling.ended [] isBlank_nil, ?_, rfl⟩
    rw [spelling.trimEnd_text, Spelling.text_eq_front]
    rfl

theorem parse?_eq_of_sameEnd {left right : Text} (same : SameEnd left right) (number : Nat) :
    parse? left number = parse? right number := by
  rw [← parse?_trimEnd left, same, parse?_trimEnd]

/-- A declaration ends in a semicolon, white space aside. -/
theorem getLast?_trimEnd_of_parse? {line : Text} {number : Nat} {declaration : Declaration}
    (found : parse? line number = some declaration) : (trimEnd line).getLast? = some ';' := by
  obtain ⟨spelling, rfl, -⟩ := parse?_eq_some_iff_spelling.mp found
  rw [spelling.trimEnd_text]
  simp

/-- Whether a line is a declaration depends neither on its number nor on its indentation. -/
theorem isSome_parse? (line : Text) (number : Nat) :
    (parse? line number).isSome =
      ((visibility? (readAttributes (line.dropWhile isIndent)).2).bind
        (fun found => declaredName? found.2)).isSome := by
  simp only [parse?, Option.bind_eq_bind]
  cases visibility? (readAttributes (line.dropWhile isIndent)).2 with
  | none => rfl
  | some found =>
    simp only [Option.bind_some]
    cases declaredName? found.2 <;> rfl

theorem isSome_parse?_append {indent : Text} (spaces : ∀ c ∈ indent, isIndent c = true)
    (line : Text) (number renumbered : Nat) :
    (parse? (indent ++ line) number).isSome = (parse? line renumbered).isSome := by
  rw [isSome_parse?, isSome_parse?, List.dropWhile_append_of_pos spaces]

end ParserRefresh.Declaration
