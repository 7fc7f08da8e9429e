import ParserRefresh.Proofs.SameLines
import ParserRefresh.Source.Comments

/-! # Reading more of a line

What is put behind a line can change how its last characters are read: a string that was open may
be closed, and a slash may become the first of two. A comment that has been found is not affected.
So where a comment starts is settled by what stands in front of it, and white space at the end of
a line does not matter for what is stripped. -/

namespace ParserRefresh.Comments

open Text

/-! ## Closing a string -/

theorem closeRaw_eq_none {hashes text : Text} (noQuote : '"' ∉ text) :
    closeRaw hashes text = none := by
  induction text with
  | nil => rfl
  | cons c text ih =>
    rw [List.mem_cons, not_or] at noQuote
    rw [closeRaw, if_neg (fun closes => noQuote.1 closes.1.symm), ih noQuote.2]
    rfl

/-- A start of the longer text that is no start of the shorter one goes past it. -/
theorem length_lt_of_isPrefixOf {start text more : Text}
    (longer : start.isPrefixOf (text ++ more) = true) (shorter : start.isPrefixOf text = false) :
    text <+: start ∧ text.length < start.length := by
  have found := List.isPrefixOf_iff_prefix.mp longer
  have missed : ¬ start <+: text := fun there => by
    rw [List.isPrefixOf_iff_prefix.mpr there] at shorter
    cases shorter
  have size : text.length < start.length := by
    rcases Nat.lt_or_ge text.length start.length with less | enough
    · exact less
    · exact absurd (List.prefix_of_prefix_length_le found (List.prefix_append _ _) enough) missed
  exact ⟨List.prefix_of_prefix_length_le (List.prefix_append _ _) found size.le, size⟩

/-- A raw string stays closed where it is. -/
theorem closeRaw_append_right {hashes text taken rest : Text} (marks : ∀ c ∈ hashes, c = '#')
    (closed : closeRaw hashes text = some (taken, rest)) (more : Text) :
    closeRaw hashes (text ++ more) = some (taken, rest ++ more) := by
  induction text generalizing taken rest with
  | nil => cases closed
  | cons c text ih =>
    rw [closeRaw] at closed
    rw [List.cons_append, closeRaw]
    split at closed
    · next here =>
      obtain ⟨tail, rfl⟩ := List.isPrefixOf_iff_prefix.mp here.2
      cases closed
      rw [if_pos ⟨here.1, List.isPrefixOf_iff_prefix.mpr (by simp)⟩]
      simp
    · next notHere =>
      obtain ⟨⟨inner, after⟩, found, same⟩ := Option.map_eq_some_iff.mp closed
      cases same
      have still : ¬ (c = '"' ∧ hashes.isPrefixOf (text ++ more) = true) := by
        rintro ⟨quote, longer⟩
        have shorter : hashes.isPrefixOf text = false :=
          Bool.eq_false_iff.mpr (fun there => notHere ⟨quote, there⟩)
        obtain ⟨start, -⟩ := length_lt_of_isPrefixOf longer shorter
        have noQuote : '"' ∉ text := fun inside => by cases marks _ (start.subset inside)
        rw [closeRaw_eq_none noQuote] at found
        cases found
      rw [if_neg still, ih found]
      rfl

/-- A raw string that is closed by what is put behind its line takes up all of the line. -/
theorem length_lt_of_closeRaw {hashes text more taken rest : Text}
    (unclosed : closeRaw hashes text = none)
    (closed : closeRaw hashes (text ++ more) = some (taken, rest)) :
    text.length < taken.length := by
  induction text generalizing taken rest with
  | nil =>
    cases more with
    | nil => cases closed
    | cons c more =>
      rw [List.nil_append, closeRaw] at closed
      split at closed
      · cases closed
        exact Nat.succ_pos _
      · obtain ⟨⟨inner, after⟩, -, same⟩ := Option.map_eq_some_iff.mp closed
        cases same
        exact Nat.succ_pos _
  | cons c text ih =>
    rw [closeRaw] at unclosed
    rw [List.cons_append, closeRaw] at closed
    split at unclosed
    · cases unclosed
    · next notHere =>
      split at closed
      · next here =>
        have shorter : hashes.isPrefixOf text = false :=
          Bool.eq_false_iff.mpr (fun there => notHere ⟨here.1, there⟩)
        obtain ⟨-, size⟩ := length_lt_of_isPrefixOf here.2 shorter
        cases closed
        exact Nat.succ_lt_succ size
      · obtain ⟨⟨inner, after⟩, found, same⟩ := Option.map_eq_some_iff.mp closed
        cases same
        exact Nat.succ_lt_succ (ih (Option.map_eq_none_iff.mp unclosed) found)

theorem closeString_cons {c : Char} (noEscape : c ≠ '\\') (noQuote : c ≠ '"') (text : Text) :
    closeString (c :: text) = (closeString text).map (fun (taken, rest) => (c :: taken, rest)) := by
  rw [closeString]
  · intro escape
    exact absurd escape noEscape
  · intro d after escape
    exact absurd escape noEscape
  · exact noQuote

/-- A backslash is the first of two characters or the last one. -/
theorem ne_escape {c : Char} {text : Text} (last : c = '\\' → text = [] → False)
    (escape : ∀ d after, c = '\\' → text = d :: after → False) : c ≠ '\\' := by
  rintro rfl
  cases text with
  | nil => exact last rfl rfl
  | cons d text => exact escape d text rfl rfl

theorem closeString_ne_nil {text taken rest : Text}
    (closed : closeString text = some (taken, rest)) : taken ≠ [] := by
  unfold closeString at closed
  split at closed
  · cases closed
  · cases closed
  · obtain ⟨inner, -, same⟩ := Option.map_eq_some_iff.mp closed
    cases same
    exact List.cons_ne_nil _ _
  · cases closed
    exact List.cons_ne_nil _ _
  · obtain ⟨inner, -, same⟩ := Option.map_eq_some_iff.mp closed
    cases same
    exact List.cons_ne_nil _ _

/-- A string stays closed where it is. -/
theorem closeString_append_right {text taken rest : Text}
    (closed : closeString text = some (taken, rest)) (more : Text) :
    closeString (text ++ more) = some (taken, rest ++ more) := by
  fun_induction closeString text generalizing taken rest with
  | case1 => cases closed
  | case2 => cases closed
  | case3 c text ih =>
    obtain ⟨⟨inner, after⟩, found, same⟩ := Option.map_eq_some_iff.mp closed
    cases same
    simp [closeString, ih found]
  | case4 text =>
    cases closed
    simp [closeString]
  | case5 c text last escape noQuote ih =>
    obtain ⟨⟨inner, after⟩, found, same⟩ := Option.map_eq_some_iff.mp closed
    cases same
    rw [List.cons_append, closeString_cons (ne_escape last escape) noQuote, ih found]
    rfl

/-- A string that is closed by what is put behind its line takes up all of the line. -/
theorem length_lt_of_closeString {text more taken rest : Text}
    (unclosed : closeString text = none)
    (closed : closeString (text ++ more) = some (taken, rest)) : text.length < taken.length := by
  fun_induction closeString text generalizing taken rest with
  | case1 => exact List.length_pos_iff.mpr (closeString_ne_nil closed)
  | case2 =>
    cases more with
    | nil => cases closed
    | cons d more =>
      obtain ⟨inner, -, same⟩ := Option.map_eq_some_iff.mp closed
      cases same
      exact Nat.succ_lt_succ (Nat.succ_pos _)
  | case3 c text ih =>
    simp only [List.cons_append, closeString] at closed
    obtain ⟨⟨inner, after⟩, found, same⟩ := Option.map_eq_some_iff.mp closed
    cases same
    have size := ih (Option.map_eq_none_iff.mp unclosed) found
    exact Nat.succ_lt_succ (Nat.succ_lt_succ size)
  | case4 text => cases unclosed
  | case5 c text last escape noQuote ih =>
    rw [List.cons_append, closeString_cons (ne_escape last escape) noQuote] at closed
    obtain ⟨⟨inner, after⟩, found, same⟩ := Option.map_eq_some_iff.mp closed
    cases same
    exact Nat.succ_lt_succ (ih (Option.map_eq_none_iff.mp unclosed) found)

/-! ## Reading one lexeme -/

def Lexeme.readPlain (c : Char) (text : Text) : Lexeme :=
  match c, text with
  | '"', _ => .ofString ['"'] (closeString text)
  | '\'', '"' :: '\'' :: rest => .passed ['\'', '"', '\''] rest
  | '/', '/' :: _ => .comment
  | _, _ => .passed [c] text

theorem Lexeme.read_eq (before : Text) (c : Char) (text : Text) :
    Lexeme.read before c text =
      match if mayOpenRaw before then rawOpening? (c :: text) else none with
      | some (hashes, body) => .ofString ('r' :: hashes ++ ['"']) (closeRaw hashes body)
      | none => Lexeme.readPlain c text := rfl

theorem Lexeme.read_eq_ofString {before text hashes body : Text} {c : Char}
    (may : mayOpenRaw before = true) (opened : rawOpening? (c :: text) = some (hashes, body)) :
    Lexeme.read before c text = .ofString ('r' :: hashes ++ ['"']) (closeRaw hashes body) := by
  rw [Lexeme.read_eq, if_pos may, opened]

theorem Lexeme.read_eq_readPlain {before text : Text} {c : Char}
    (plain : mayOpenRaw before = true → rawOpening? (c :: text) = none) :
    Lexeme.read before c text = Lexeme.readPlain c text := by
  rw [Lexeme.read_eq]
  cases may : mayOpenRaw before with
  | false => rfl
  | true => rw [plain may, ite_self]

/-- The lexeme when `more` stands behind the line. -/
def Lexeme.extend (more : Text) : Lexeme → Lexeme
  | .comment => .comment
  | .unclosed => .unclosed
  | .passed taken rest => .passed taken (rest ++ more)

/-- Whether a lexeme whose first character stands in front of `text` goes on to the end of it,
where the second slash of a comment is counted and the comment is not. -/
def Lexeme.Overruns (text : Text) : Lexeme → Prop
  | .comment => text = []
  | .unclosed => True
  | .passed taken _ => text.length < taken.length

theorem splitFrom_cons (before : Text) (c : Char) (text : Text) :
    splitFrom before (c :: text) =
      match Lexeme.read before c text with
      | .comment => some (before.reverse, c :: text)
      | .unclosed => none
      | .passed taken rest => splitFrom (taken.reverse ++ before) rest := by
  rw [splitFrom]
  split <;> simp_all

/-- A string that is closed keeps its end; one that is not goes on to the end of its line. -/
theorem Lexeme.ofString_append_right (opening : Text) {body text : Text} (more : Text)
    {close : Text → Option (Text × Text)} (whole : (opening ++ body).length = text.length + 1)
    (kept : ∀ taken rest, close body = some (taken, rest) →
      close (body ++ more) = some (taken, rest ++ more))
    (past : ∀ taken rest, close body = none → close (body ++ more) = some (taken, rest) →
      body.length < taken.length) :
    Lexeme.ofString opening (close (body ++ more)) =
        (Lexeme.ofString opening (close body)).extend more ∨
      Lexeme.ofString opening (close body) = .unclosed ∧
        (Lexeme.ofString opening (close (body ++ more))).Overruns text := by
  cases here : close body with
  | some parts =>
    obtain ⟨taken, rest⟩ := parts
    rw [kept taken rest here]
    exact Or.inl rfl
  | none =>
    right
    refine ⟨rfl, ?_⟩
    cases later : close (body ++ more) with
    | none => trivial
    | some parts =>
      obtain ⟨taken, rest⟩ := parts
      have size := past taken rest here later
      simp only [List.length_append] at whole
      simp only [Lexeme.ofString, Lexeme.Overruns, List.length_append]
      omega

/-- Hashes at the end of a line hold no comment. -/
theorem splitFrom_hashes {text : Text} (hashes : ∀ c ∈ text, c = '#') (before : Text) :
    splitFrom before text = none := by
  induction text generalizing before with
  | nil => rw [splitFrom]
  | cons c text ih =>
    obtain rfl := hashes c List.mem_cons_self
    rw [splitFrom_cons, Lexeme.read_eq_readPlain (fun _ => rfl)]
    exact ih (fun c member => hashes c (List.mem_cons_of_mem _ member)) _

theorem rawOpening?_eq_some_iff {text hashes body : Text} :
    rawOpening? text = some (hashes, body) ↔
      (∀ c ∈ hashes, c = '#') ∧ text = 'r' :: hashes ++ '"' :: body := by
  constructor
  · intro opened
    refine ⟨?_, (rawOpening?_append opened).symm⟩
    unfold rawOpening? at opened
    split at opened
    · split at opened
      · cases opened
        intro c member
        simpa using List.mem_takeWhile_imp member
      · cases opened
    · cases opened
  · rintro ⟨marks, rfl⟩
    have all : ∀ c ∈ hashes, (c == '#') = true := fun c member => by simpa using marks c member
    rw [List.cons_append, rawOpening?, dropWhile_append_cons all (by decide),
      takeWhile_append_cons all (by decide)]
    rfl

theorem Lexeme.readPlain_apostrophe (text : Text) :
    Lexeme.readPlain '\'' text =
      if ['"', '\''].isPrefixOf text then .passed ['\'', '"', '\''] (text.drop 2)
      else .passed ['\''] text := by
  split
  · next closed =>
    obtain ⟨rest, rfl⟩ := List.isPrefixOf_iff_prefix.mp closed
    rfl
  · next alone =>
    unfold Lexeme.readPlain
    split
    · next letter => cases letter
    · next rest _ => simp at alone
    · next letter => cases letter
    · rfl

theorem Lexeme.readPlain_slash (text : Text) :
    Lexeme.readPlain '/' text = if ['/'].isPrefixOf text then .comment else .passed ['/'] text := by
  split
  · next second =>
    obtain ⟨rest, rfl⟩ := List.isPrefixOf_iff_prefix.mp second
    rfl
  · next alone =>
    unfold Lexeme.readPlain
    split
    · next letter => cases letter
    · next letter => cases letter
    · simp at alone
    · rfl

theorem Lexeme.readPlain_single {c : Char} (quote : c ≠ '"') (apostrophe : c ≠ '\'')
    (slash : c ≠ '/') (text : Text) : Lexeme.readPlain c text = .passed [c] text := by
  unfold Lexeme.readPlain
  split
  · exact absurd rfl quote
  · exact absurd rfl apostrophe
  · exact absurd rfl slash
  · rfl

theorem splitFrom_quote (before : Text) : splitFrom before ['"'] = none := by
  rw [splitFrom_cons, Lexeme.read_eq_readPlain (fun _ => rfl)]
  rfl

/-- What is put behind a line stays behind its first lexeme, or else the line has no comment and
the lexeme goes on to the end of the line. -/
theorem Lexeme.readPlain_append_right {before text : Text} {c : Char}
    (plain : Lexeme.read before c text = Lexeme.readPlain c text) (more : Text) :
    Lexeme.readPlain c (text ++ more) = (Lexeme.readPlain c text).extend more ∨
      splitFrom before (c :: text) = none ∧ (Lexeme.readPlain c (text ++ more)).Overruns text := by
  by_cases quote : c = '"'
  · subst quote
    have size : (['"'] ++ text).length = text.length + 1 := rfl
    have string := Lexeme.ofString_append_right ['"'] more size
      (fun _ _ closed => closeString_append_right closed more)
      (fun _ _ unclosed closed => length_lt_of_closeString unclosed closed)
    refine string.imp_right (fun unclosed => ⟨?_, unclosed.2⟩)
    rw [splitFrom_cons, plain, Lexeme.readPlain, unclosed.1]
  by_cases apostrophe : c = '\''
  · subst apostrophe
    rw [splitFrom_cons, plain, Lexeme.readPlain_apostrophe, Lexeme.readPlain_apostrophe]
    cases here : ['"', '\''].isPrefixOf text with
    | true =>
      obtain ⟨rest, rfl⟩ := List.isPrefixOf_iff_prefix.mp here
      exact Or.inl rfl
    | false =>
      cases later : ['"', '\''].isPrefixOf (text ++ more) with
      | true =>
        obtain ⟨start, size⟩ := length_lt_of_isPrefixOf later here
        refine Or.inr ⟨?_, Nat.lt_succ_of_lt size⟩
        cases text with
        | nil => exact splitFrom_hashes (by simp) _
        | cons d text =>
          have empty : text = [] :=
            List.length_eq_zero_iff.mp (Nat.lt_one_iff.mp (Nat.lt_of_succ_lt_succ size))
          obtain ⟨rfl, -⟩ := List.cons_prefix_cons.mp start
          rw [empty]
          exact splitFrom_quote _
      | false => exact Or.inl rfl
  by_cases slash : c = '/'
  · subst slash
    rw [splitFrom_cons, plain, Lexeme.readPlain_slash, Lexeme.readPlain_slash]
    cases here : ['/'].isPrefixOf text with
    | true =>
      obtain ⟨rest, rfl⟩ := List.isPrefixOf_iff_prefix.mp here
      exact Or.inl rfl
    | false =>
      cases later : ['/'].isPrefixOf (text ++ more) with
      | true =>
        obtain ⟨-, size⟩ := length_lt_of_isPrefixOf later here
        obtain rfl : text = [] := List.length_eq_zero_iff.mp (Nat.lt_one_iff.mp size)
        exact Or.inr ⟨splitFrom_hashes (by simp) _, rfl⟩
      | false => exact Or.inl rfl
  · left
    rw [Lexeme.readPlain_single quote apostrophe slash,
      Lexeme.readPlain_single quote apostrophe slash]
    rfl

/-- The same for all lexemes. -/
theorem Lexeme.read_append_right (before : Text) (c : Char) (text more : Text) :
    Lexeme.read before c (text ++ more) = (Lexeme.read before c text).extend more ∨
      splitFrom before (c :: text) = none ∧
        (Lexeme.read before c (text ++ more)).Overruns text := by
  cases may : mayOpenRaw before with
  | false =>
    have plain : ∀ after, Lexeme.read before c after = Lexeme.readPlain c after := fun after =>
      Lexeme.read_eq_readPlain (fun raw => by rw [may] at raw; cases raw)
    rw [plain, plain]
    exact Lexeme.readPlain_append_right (plain text) more
  | true =>
    cases opened : rawOpening? (c :: text) with
    | some parts =>
      obtain ⟨hashes, body⟩ := parts
      obtain ⟨marks, whole⟩ := rawOpening?_eq_some_iff.mp opened
      have longer : rawOpening? (c :: (text ++ more)) = some (hashes, body ++ more) :=
        rawOpening?_eq_some_iff.mpr ⟨marks, by rw [← List.cons_append, whole]; simp⟩
      have size : ('r' :: hashes ++ ['"'] ++ body).length = text.length + 1 := by
        rw [← List.length_cons, whole]
        simp
      have string := Lexeme.ofString_append_right ('r' :: hashes ++ ['"']) more size
        (fun _ _ closed => closeRaw_append_right marks closed more)
        (fun _ _ unclosed closed => length_lt_of_closeRaw unclosed closed)
      rw [splitFrom_cons, Lexeme.read_eq_ofString may opened, Lexeme.read_eq_ofString may longer]
      exact string.imp_right (fun unclosed => ⟨by rw [unclosed.1], unclosed.2⟩)
    | none =>
      have plain := Lexeme.read_eq_readPlain (fun _ : mayOpenRaw before = true => opened)
      cases later : rawOpening? (c :: (text ++ more)) with
      | none =>
        rw [plain, Lexeme.read_eq_readPlain (fun _ => later)]
        exact Lexeme.readPlain_append_right plain more
      | some parts =>
        -- The quote of the opening lies in `more`, so the line ends in the hashes in front of it.
        obtain ⟨hashes, body⟩ := parts
        obtain ⟨marks, whole⟩ := rawOpening?_eq_some_iff.mp later
        obtain ⟨rfl, parts⟩ := List.cons.inj whole
        have inside : text <+: hashes := by
          rcases List.append_eq_append_iff.mp parts with ⟨after, front, -⟩ | ⟨after, front, behind⟩
          · exact ⟨after, front.symm⟩
          · cases after with
            | nil => exact ⟨[], by simp [front]⟩
            | cons quote body =>
              obtain ⟨rfl, -⟩ := List.cons.inj behind
              rw [rawOpening?_eq_some_iff.mpr ⟨marks, congrArg ('r' :: ·) front⟩] at opened
              cases opened
        have none : splitFrom before ('r' :: text) = none := by
          rw [splitFrom_cons, plain]
          exact splitFrom_hashes (fun d member => marks d (inside.subset member)) _
        refine Or.inr ⟨none, ?_⟩
        rw [Lexeme.read_eq_ofString may later]
        cases closeRaw hashes body with
        | none => trivial
        | some parts =>
          have size := inside.length_le
          simp only [Lexeme.ofString, Lexeme.Overruns, List.length_append, List.length_cons]
          omega

/-! ## Where a comment starts -/

theorem Lexeme.read_eq_comment {before text : Text} {c : Char}
    (found : Lexeme.read before c text = .comment) : ∃ rest, c :: text = '/' :: '/' :: rest := by
  rw [Lexeme.read_eq] at found
  split at found
  · next hashes body _ =>
    cases closed : closeRaw hashes body <;> rw [closed] at found <;> cases found
  · unfold Lexeme.readPlain at found
    split at found
    · cases closed : closeString text <;> rw [closed] at found <;> cases found
    · cases found
    · exact ⟨_, rfl⟩
    · cases found

/-- A comment begins with two slashes, and the code in front of it is what has been read. -/
theorem exists_of_splitFrom {before text code comment : Text}
    (found : splitFrom before text = some (code, comment)) :
    ∃ passed rest, code = before.reverse ++ passed ∧ comment = '/' :: '/' :: rest ∧
      text = passed ++ comment := by
  fun_induction splitFrom before text with
  | case1 => cases found
  | case2 before c text read =>
    cases found
    obtain ⟨rest, whole⟩ := Lexeme.read_eq_comment read
    exact ⟨[], rest, (List.append_nil _).symm, whole, rfl⟩
  | case3 => cases found
  | case4 before c text taken rest read ih =>
    obtain ⟨passed, last, front, start, parts⟩ := ih found
    refine ⟨taken ++ passed, last, ?_, start, ?_⟩
    · simp [front]
    · rw [← (Lexeme.read_append read).2, parts, List.append_assoc]

/-- A comment stays where it is when the line goes on. -/
theorem splitFrom_append_right {before text code comment : Text}
    (found : splitFrom before text = some (code, comment)) (more : Text) :
    splitFrom before (text ++ more) = some (code, comment ++ more) := by
  fun_induction splitFrom before text with
  | case1 => cases found
  | case2 before c text read =>
    cases found
    rcases Lexeme.read_append_right before c text more with same | ⟨none, -⟩
    · rw [List.cons_append, splitFrom_cons, same, read]
      rfl
    · rw [splitFrom_cons, read] at none
      cases none
  | case3 => cases found
  | case4 before c text taken rest read ih =>
    rcases Lexeme.read_append_right before c text more with same | ⟨none, -⟩
    · rw [List.cons_append, splitFrom_cons, same, read]
      exact ih found
    · rw [splitFrom_cons, read] at none
      exact absurd (none.symm.trans found) (by simp)

theorem length_lt_of_overruns {before text after code comment : Text} {c : Char}
    (past : (Lexeme.read before c after).Overruns text)
    (found : splitFrom before (c :: after) = some (code, comment)) :
    before.length + text.length ≤ code.length := by
  rw [splitFrom_cons] at found
  cases read : Lexeme.read before c after with
  | comment =>
    rw [read] at past found
    obtain rfl : text = [] := past
    cases found
    simp
  | unclosed =>
    rw [read] at found
    cases found
  | passed taken rest =>
    rw [read] at past found
    have size : text.length < taken.length := past
    obtain ⟨passed, -, rfl, -, -⟩ := exists_of_splitFrom found
    simp only [List.length_append, List.length_reverse]
    omega

/-- When a line without a comment has one after going on, at most the first slash of it stood on
the line. -/
theorem length_le_of_splitFrom {before text more code comment : Text}
    (none : splitFrom before text = none)
    (found : splitFrom before (text ++ more) = some (code, comment)) :
    before.length + text.length ≤ code.length + 1 := by
  fun_induction splitFrom before text with
  | case1 before =>
    obtain ⟨passed, -, rfl, -, -⟩ := exists_of_splitFrom found
    simp only [List.length_append, List.length_reverse, List.length_nil]
    omega
  | case2 => cases none
  | case3 before c text read =>
    rcases Lexeme.read_append_right before c text more with same | ⟨-, past⟩
    · rw [List.cons_append, splitFrom_cons, same, read] at found
      cases found
    · exact Nat.succ_le_succ (length_lt_of_overruns past found)
  | case4 before c text taken rest read ih =>
    rcases Lexeme.read_append_right before c text more with same | ⟨-, past⟩
    · rw [List.cons_append, splitFrom_cons, same, read] at found
      have size := ih none found
      have whole := congrArg List.length (Lexeme.read_append read).2
      simp only [List.length_append, List.length_reverse, List.length_cons] at size whole ⊢
      omega
    · exact Nat.succ_le_succ (length_lt_of_overruns past found)

/-! ## Stripping a line -/

/-- A line stays as it is unless it has a comment that is not kept, or is cut down to the code in
front of this comment. -/
theorem stripLine_eq_some_iff {kept : List Text} {line out : Text} :
    stripLine kept line = some out ↔
      ((∀ code comment, split? line = some (code, comment) → isKept kept comment = true) ∧
        out = line) ∨
      ∃ code comment, split? line = some (code, comment) ∧ isKept kept comment = false ∧
        isBlank code = false ∧ out = trimEnd code := by
  constructor
  · intro stripped
    unfold stripLine at stripped
    split at stripped
    · next none =>
      cases stripped
      refine Or.inl ⟨fun code comment found => ?_, rfl⟩
      rw [none] at found
      cases found
    · next code comment here =>
      split at stripped
      · next stays =>
        cases stripped
        refine Or.inl ⟨fun code comment found => ?_, rfl⟩
        rw [here] at found
        cases found
        exact stays
      · next leaves =>
        split at stripped
        · cases stripped
        · next content =>
          cases stripped
          exact Or.inr ⟨code, comment, here, Bool.eq_false_iff.mpr leaves,
            Bool.eq_false_iff.mpr content, rfl⟩
  · rintro (⟨stays, rfl⟩ | ⟨code, comment, here, leaves, content, rfl⟩)
    · unfold stripLine
      split
      · rfl
      · next code comment here => rw [if_pos (stays code comment here)]
    · rw [stripLine, here]
      dsimp only
      rw [leaves, content, if_neg Bool.false_ne_true, if_neg Bool.false_ne_true]

/-- What is left of a line is written with its characters. -/
theorem subset_of_stripLine {kept : List Text} {line out : Text}
    (stripped : stripLine kept line = some out) : out ⊆ line := by
  rcases stripLine_eq_some_iff.mp stripped with ⟨-, rfl⟩ | ⟨code, comment, found, -, -, rfl⟩
  · exact List.Subset.refl _
  · obtain ⟨passed, rest, rfl, -, whole⟩ := exists_of_splitFrom found
    rw [whole]
    exact List.subset_append_of_subset_left _ (trimEnd_subset _)

theorem isLine_of_mem_filterMap {kept rows : List Text} (single : ∀ row ∈ rows, IsLine row)
    {out : Text} (member : out ∈ rows.filterMap (stripLine kept)) : IsLine out := by
  obtain ⟨row, there, stripped⟩ := List.mem_filterMap.mp member
  exact (single row there).of_subset (subset_of_stripLine stripped)

/-- White space at the end of a line belongs to its comment, if it has one. -/
theorem split?_append_of_isBlank (text : Text) {blank : Text} (space : isBlank blank = true) :
    split? (text ++ blank) =
      (split? text).map (fun (code, comment) => (code, comment ++ blank)) := by
  cases here : split? text with
  | some parts =>
    obtain ⟨code, comment⟩ := parts
    exact splitFrom_append_right here blank
  | none =>
    cases later : split? (text ++ blank) with
    | none => rfl
    | some parts =>
      -- The second slash of the comment would have to be one of the blank characters.
      obtain ⟨code, comment⟩ := parts
      have size := length_le_of_splitFrom here later
      obtain ⟨passed, rest, rfl, rfl, whole⟩ := exists_of_splitFrom later
      have inside : '/' ∈ blank := by
        rw [← List.singleton_append, ← List.append_assoc] at whole
        rcases List.append_eq_append_iff.mp whole with ⟨after, -, behind⟩ | ⟨after, front, behind⟩
        · simp [behind]
        · have empty : after = [] := by
            have lengths := congrArg List.length front
            simp only [List.length_append, List.length_singleton, List.length_nil] at size lengths
            exact List.length_eq_zero_iff.mp (by omega)
          rw [empty, List.nil_append] at behind
          simp [← behind]
      have slash := isBlank_iff.mp space '/' inside
      cases slash

theorem isKept_eq {kept : List Text} {left right : Text} (same : SameEnd left right)
    (tight : ∀ start ∈ kept, trimEnd start = start) : isKept kept left = isKept kept right := by
  induction kept with
  | nil => rfl
  | cons start kept ih =>
    have first := same.isPrefixOf_eq start (tight start List.mem_cons_self)
    have others := ih (fun start member => tight start (List.mem_cons_of_mem _ member))
    rw [isKept, isKept, List.any_cons, List.any_cons, first]
    exact congrArg (_ || ·) others

/-- Lines with the same end are stripped to lines with the same end. -/
theorem stripLine_sameEnd {kept : List Text} {left right : Text} (same : SameEnd left right)
    (tight : ∀ start ∈ kept, trimEnd start = start) :
    Option.Rel SameEnd (stripLine kept left) (stripLine kept right) := by
  obtain ⟨gap, space, whole⟩ := exists_trimEnd_append left
  obtain ⟨other, space', whole'⟩ := exists_trimEnd_append right
  rw [← same] at whole'
  have first := split?_append_of_isBlank (trimEnd left) space
  have second := split?_append_of_isBlank (trimEnd left) space'
  rw [whole] at first
  rw [whole'] at second
  unfold stripLine
  cases here : split? (trimEnd left) with
  | none =>
    rw [first, second, here]
    exact .some same
  | some parts =>
    obtain ⟨code, comment⟩ := parts
    rw [first, second, here]
    have tails : SameEnd (comment ++ gap) (comment ++ other) := by
      rw [SameEnd, trimEnd_append_of_isBlank _ space, trimEnd_append_of_isBlank _ space']
    dsimp only [Option.map_some]
    rw [isKept_eq tails tight]
    split
    · exact .some same
    · split
      · exact .none
      · exact .some (SameEnd.refl _)

theorem stripLine_sameLine {kept : List Text} {left right : Text} (same : SameLine left right)
    (tight : ∀ start ∈ kept, trimEnd start = start) :
    Option.Rel SameLine (stripLine kept left) (stripLine kept right) := by
  have ends := stripLine_sameEnd same.ends tight
  have line : ∀ out, stripLine kept left = some out → IsLine out := fun out stripped =>
    same.line.of_subset (subset_of_stripLine stripped)
  have other : ∀ out, stripLine kept right = some out → IsLine out := fun out stripped =>
    same.other.of_subset (subset_of_stripLine stripped)
  generalize stripLine kept left = first at ends line ⊢
  generalize stripLine kept right = second at ends other ⊢
  cases ends with
  | none => exact .none
  | some ends => exact .some ⟨line _ rfl, other _ rfl, ends⟩

end ParserRefresh.Comments
