import ParserRefresh.Source.CrateAttributes

/-! # Search patterns

Crate attributes are searched for with one pattern for all names: the start of an attribute, perhaps
some white space, one of the names, and the edge of a word. Such a pattern is read from its text,
where operators stand for themselves behind a backslash, and it is looked for in a line. The pattern
for a list of names reads as the choice of these names, whatever characters they hold. -/

namespace ParserRefresh

open Text

/-- What a search pattern asks for. -/
inductive Pattern where
  | single (c : Char)
  | space
  | lineStart
  /-- A place with a word character on one side only. -/
  | wordEdge
  | many (inner : Pattern)
  | sequence (items : List Pattern)
  | choice (items : List Pattern)

namespace Pattern

/-! ## What a pattern matches -/

/-- A pattern matches a part of a line that has `before` in front and `behind` after it. -/
inductive Matches : Pattern → Text → Text → Text → Prop where
  | single (c : Char) (before behind : Text) : Matches (.single c) before [c] behind
  | space {c : Char} (white : isSpace c = true) (before behind : Text) :
      Matches .space before [c] behind
  | lineStart (behind : Text) : Matches .lineStart [] [] behind
  | wordEdge {before behind : Text} (edge : before.getLast?.any isWord ≠ behind.head?.any isWord) :
      Matches .wordEdge before [] behind
  | none (inner : Pattern) (before behind : Text) : Matches (.many inner) before [] behind
  | more {inner : Pattern} {before part others behind : Text}
      (first : Matches inner before part (others ++ behind))
      (rest : Matches (.many inner) (before ++ part) others behind) :
      Matches (.many inner) before (part ++ others) behind
  | nil (before behind : Text) : Matches (.sequence []) before [] behind
  | cons {item : Pattern} {items : List Pattern} {before part others behind : Text}
      (first : Matches item before part (others ++ behind))
      (rest : Matches (.sequence items) (before ++ part) others behind) :
      Matches (.sequence (item :: items)) before (part ++ others) behind
  | chosen {item : Pattern} {items : List Pattern} {before part behind : Text}
      (member : item ∈ items) (matched : Matches item before part behind) :
      Matches (.choice items) before part behind

/-- Whether a pattern matches somewhere in a line. -/
def Finds (pattern : Pattern) (line : Text) : Prop :=
  ∃ before part behind, line = before ++ part ++ behind ∧ pattern.Matches before part behind

def literal (text : Text) : Pattern := .sequence (text.map .single)

/-- The pattern of an attribute with one of the names. -/
def ofNames (names : List Text) : Pattern :=
  .choice [.sequence [.lineStart, .single '#', .single '!', .single '[', .many .space,
    .choice (names.map literal), .wordEdge]]

variable {item : Pattern} {items : List Pattern} {before part behind : Text} {names : List Text}

theorem matches_single_iff {c : Char} : Matches (.single c) before part behind ↔ part = [c] := by
  constructor
  · rintro ⟨⟩
    rfl
  · rintro rfl
    exact .single c before behind

theorem matches_lineStart_iff : Matches .lineStart before part behind ↔ before = [] ∧ part = [] := by
  constructor
  · rintro ⟨⟩
    exact ⟨rfl, rfl⟩
  · rintro ⟨rfl, rfl⟩
    exact .lineStart behind

theorem matches_wordEdge_iff :
    Matches .wordEdge before part behind ↔
      part = [] ∧ before.getLast?.any isWord ≠ behind.head?.any isWord := by
  constructor
  · rintro ⟨⟩
    exact ⟨rfl, ‹_›⟩
  · rintro ⟨rfl, edge⟩
    exact .wordEdge edge

theorem matches_nil_iff : Matches (.sequence []) before part behind ↔ part = [] := by
  constructor
  · rintro ⟨⟩
    rfl
  · rintro rfl
    exact .nil before behind

theorem matches_cons_iff :
    Matches (.sequence (item :: items)) before part behind ↔
      ∃ first others, part = first ++ others ∧ Matches item before first (others ++ behind) ∧
        Matches (.sequence items) (before ++ first) others behind := by
  constructor
  · rintro ⟨⟩
    exact ⟨_, _, rfl, ‹_›, ‹_›⟩
  · rintro ⟨first, others, rfl, here, rest⟩
    exact .cons here rest

theorem matches_choice_iff :
    Matches (.choice items) before part behind ↔
      ∃ item ∈ items, Matches item before part behind := by
  constructor
  · rintro ⟨⟩
    exact ⟨_, ‹_›, ‹_›⟩
  · rintro ⟨item, member, matched⟩
    exact .chosen member matched

/-- White space is matched as far as one likes, and nothing else is. -/
theorem matches_many_space_iff :
    Matches (.many .space) before part behind ↔ isBlank part = true := by
  constructor
  · intro matched
    generalize same : Pattern.many .space = pattern at matched
    induction matched with
    | none => rfl
    | more first rest _ ih =>
      cases same
      cases first with
      | space white =>
        rw [List.singleton_append, isBlank, List.all_cons, white]
        exact ih rfl
    | _ => cases same
  · intro blank
    induction part generalizing before with
    | nil => exact .none .space before behind
    | cons c part ih =>
      rw [isBlank, List.all_cons, Bool.and_eq_true] at blank
      have first : Matches .space before [c] (part ++ behind) := .space blank.1 before _
      exact .more first (ih blank.2)

theorem matches_literal_iff {text : Text} :
    Matches (literal text) before part behind ↔ part = text := by
  unfold literal
  induction text generalizing before part with
  | nil => exact matches_nil_iff
  | cons c text ih =>
    rw [List.map_cons, matches_cons_iff]
    constructor
    · rintro ⟨first, others, rfl, here, rest⟩
      rw [matches_single_iff.mp here, ih.mp rest]
      rfl
    · rintro rfl
      exact ⟨[c], text, rfl, .single c before _, ih.mpr rfl⟩

theorem matches_names_iff :
    Matches (.choice (names.map literal)) before part behind ↔ part ∈ names := by
  rw [matches_choice_iff]
  constructor
  · rintro ⟨_, member, matched⟩
    obtain ⟨name, there, rfl⟩ := List.mem_map.mp member
    rw [matches_literal_iff.mp matched]
    exact there
  · intro there
    exact ⟨literal part, List.mem_map_of_mem there, matches_literal_iff.mpr rfl⟩

/-- An attribute is found at the start of a line: white space follows, and then a name that ends at
the edge of a word. -/
theorem finds_ofNames_iff {line : Text} :
    (ofNames names).Finds line ↔
      ∃ name ∈ names, ∃ gap rest, line = "#![".toList ++ gap ++ name ++ rest ∧
        isBlank gap = true ∧
        ("#![".toList ++ gap ++ name).getLast?.any isWord ≠ rest.head?.any isWord := by
  simp only [Finds, ofNames, matches_choice_iff, List.mem_singleton, exists_eq_left,
    matches_cons_iff, matches_lineStart_iff, matches_single_iff, matches_many_space_iff,
    matches_wordEdge_iff, matches_nil_iff]
  constructor
  · rintro ⟨before, part, behind, rfl, -, -, rfl, ⟨rfl, rfl⟩, -, -, rfl, rfl, -, -, rfl, rfl, -, -,
      rfl, rfl, gap, -, rfl, blank, name, -, rfl, member, -, -, rfl, ⟨rfl, edge⟩, rfl⟩
    exact ⟨name, matches_names_iff.mp (matches_choice_iff.mpr member), gap, behind, by simp,
      blank, by simpa using edge⟩
  · rintro ⟨name, member, gap, rest, rfl, blank, edge⟩
    refine ⟨[], "#![".toList ++ gap ++ name, rest, by simp, [], _, rfl, ⟨rfl, rfl⟩, ['#'], _, rfl, rfl,
      ['!'], _, rfl, rfl, ['['], gap ++ name, rfl, rfl, gap, name, rfl, blank, name, [], ?_,
      matches_choice_iff.mp (matches_names_iff.mpr member), [], [], rfl, ⟨rfl, ?_⟩, rfl⟩
    · exact (List.append_nil name).symm
    · simpa using edge

/-! ## Reading a pattern -/

/-- A group whose end has not been read: the alternatives in front and the items of the last
alternative, the latest first. -/
structure Group where
  earlier : List Pattern
  current : List Pattern

namespace Group

def empty : Group := ⟨[], []⟩

def push (group : Group) (item : Pattern) : Group := { group with current := item :: group.current }

def last (group : Group) : Pattern := .sequence group.current.reverse

def next (group : Group) : Group := ⟨group.last :: group.earlier, []⟩

def close (group : Group) : Pattern := .choice (group.last :: group.earlier).reverse

def repeat? (group : Group) : Option Group :=
  match group.current with
  | [] => none
  | item :: items => some { group with current := .many item :: items }

end Group

def escaped? (c : Char) : Option Pattern :=
  if CrateAttributes.isOperator c then some (.single c)
  else if c = 's' then some .space
  else if c = 'b' then some .wordEdge
  else none

/-- Reads the rest of a pattern inside of groups, the innermost first. A dot, a class, a count, an
end of line and a group that is numbered or has options are not read. -/
def readFrom (outer : List Group) (group : Group) : Text → Option Pattern
  | [] => if outer.isEmpty then some group.close else none
  | '\\' :: c :: rest => (escaped? c).bind fun item => readFrom outer (group.push item) rest
  | '(' :: '?' :: ':' :: rest => readFrom (group :: outer) .empty rest
  | c :: rest =>
    if c = ')' then
      match outer with
      | [] => none
      | around :: outer => readFrom outer (around.push group.close) rest
    else if c = '|' then readFrom outer group.next rest
    else if c = '*' then group.repeat?.bind fun group => readFrom outer group rest
    else if c = '^' then readFrom outer (group.push .lineStart) rest
    else if "\\.+?([]\x7b\x7d$".toList.contains c then none
    else readFrom outer (group.push (.single c)) rest

/-- The pattern that a text stands for. -/
def read? (text : Text) : Option Pattern := readFrom [] .empty text

variable {outer : List Group} {group : Group} {rest : Text}

theorem readFrom_operator {c : Char} (operator : CrateAttributes.isOperator c = true) :
    readFrom outer group ('\\' :: c :: rest) = readFrom outer (group.push (.single c)) rest := by
  rw [readFrom, escaped?, if_pos operator]
  rfl

theorem readFrom_plain {c : Char} (plain : CrateAttributes.isOperator c = false) :
    readFrom outer group (c :: rest) = readFrom outer (group.push (.single c)) rest := by
  have other : ∀ {d}, CrateAttributes.isOperator d = true → c ≠ d := by
    rintro d operator rfl
    rw [plain] at operator
    cases operator
  have unread : "\\.+?([]\x7b\x7d$".toList.contains c = false := by
    have all : "\\.+?([]\x7b\x7d$".toList.all CrateAttributes.isOperator = true := by decide
    rw [List.contains_eq_mem, decide_eq_false_iff_not]
    exact fun member => other (List.all_eq_true.mp all c member) rfl
  rw [readFrom.eq_def outer group (c :: rest)]
  split
  · next none => cases none
  · next same =>
    exact absurd (List.cons.inj same).1 (other (by decide))
  · next same =>
    exact absurd (List.cons.inj same).1 (other (by decide))
  · next same =>
    obtain ⟨rfl, rfl⟩ := List.cons.inj same
    rw [if_neg (other (by decide)), if_neg (other (by decide)), if_neg (other (by decide)),
      if_neg (other (by decide)), unread, if_neg Bool.false_ne_true]

/-- An escaped text is read as standing for itself. -/
theorem readFrom_escape (name : Text) (group : Group) :
    readFrom outer group (CrateAttributes.escape name ++ rest) =
      readFrom outer { group with current := (name.map .single).reverse ++ group.current } rest := by
  unfold CrateAttributes.escape
  induction name generalizing group with
  | nil => rfl
  | cons c name ih =>
    have further : (List.map Pattern.single (c :: name)).reverse ++ group.current =
        (name.map Pattern.single).reverse ++ (group.push (.single c)).current := by
      simp [Group.push]
    rw [List.flatMap_cons, List.append_assoc, further]
    cases operator : CrateAttributes.isOperator c with
    | true => exact (readFrom_operator operator).trans (ih (group.push (.single c)))
    | false => exact (readFrom_plain operator).trans (ih (group.push (.single c)))

/-- The alternative is the name that has been read. -/
theorem last_of_name (name : Text) (earlier : List Pattern) :
    Group.last ⟨earlier, (name.map .single).reverse ++ []⟩ = literal name := by
  rw [Group.last, List.append_nil, List.reverse_reverse, literal]

/-- Names with bars between them are read as a choice. -/
theorem readFrom_names (name : Text) (names : List Text) (earlier : List Pattern) (around : Group) :
    readFrom (around :: outer) ⟨earlier, []⟩
        (['|'].intercalate ((name :: names).map CrateAttributes.escape) ++ ')' :: rest) =
      readFrom outer (around.push (.choice (earlier.reverse ++ (name :: names).map literal))) rest := by
  induction names generalizing name earlier with
  | nil =>
    have closed : Group.close ⟨earlier, (name.map .single).reverse ++ []⟩ =
        .choice (earlier.reverse ++ [name].map literal) := by
      rw [Group.close, last_of_name, List.reverse_cons]
      rfl
    rw [List.map_singleton, List.intercalate_singleton, readFrom_escape, ← closed]
    rfl
  | cons next names ih =>
    have another : Group.next ⟨earlier, (name.map .single).reverse ++ []⟩ =
        ⟨literal name :: earlier, []⟩ := by
      rw [Group.next, last_of_name]
    have choices : earlier.reverse ++ (name :: next :: names).map literal =
        (literal name :: earlier).reverse ++ (next :: names).map literal := by
      simp
    rw [List.map_cons, List.map_cons, List.intercalate_cons_cons, List.append_assoc, List.append_assoc,
      readFrom_escape, choices, ← ih next (literal name :: earlier), ← another]
    rfl

def beforeNames : Group := ⟨[], [.many .space, .single '[', .single '!', .single '#', .lineStart]⟩

theorem readFrom_beforeNames (rest : Text) :
    readFrom [] .empty ("^#!\\[\\s*(?:".toList ++ rest) = readFrom [beforeNames] .empty rest := by
  simp [readFrom, escaped?, CrateAttributes.isOperator, Group.push, Group.repeat?, Group.empty,
    beforeNames]

theorem readFrom_behindNames (group : Group) :
    readFrom [] group ['\\', 'b'] = some (group.push .wordEdge).close := by
  simp [readFrom, escaped?, CrateAttributes.isOperator]

/-- The pattern for a list of names is read as the choice of these names. -/
theorem read?_pattern {names : List Text} (named : names ≠ []) :
    read? (CrateAttributes.pattern names) = some (ofNames names) := by
  obtain ⟨name, names, rfl⟩ := List.exists_cons_of_ne_nil named
  let escaped := (name :: names).map CrateAttributes.escape
  calc
    read? (CrateAttributes.pattern (name :: names)) =
        readFrom [] .empty ("^#!\\[\\s*(?:".toList ++ (['|'].intercalate escaped ++ ")\\b".toList)) :=
      congrArg (readFrom [] .empty) (List.append_assoc _ _ _)
    _ = readFrom [beforeNames] .empty (['|'].intercalate escaped ++ ")\\b".toList) :=
      readFrom_beforeNames _
    _ = readFrom [] (beforeNames.push (.choice ((name :: names).map literal))) ['\\', 'b'] :=
      readFrom_names name names [] beforeNames
    _ = some (ofNames (name :: names)) := readFrom_behindNames _

end Pattern

end ParserRefresh
