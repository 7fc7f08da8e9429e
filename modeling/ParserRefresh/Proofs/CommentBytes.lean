import ParserRefresh.Proofs.CharacterBytes
import ParserRefresh.Proofs.CodeReading

/-! # Bytes of comments

A comment can be looked for in the bytes of a line, with a flag that says whether a place lies in a
string. All that such a scan looks at are ASCII bytes, and no other character has one of these, so
the scan keeps in step with a reading of the characters: it ends at the place where the reading
comes to a comment, which is the start of a character. -/

namespace ParserRefresh.Comments.Bytes

open Text

/-! ## Scanning bytes -/

def isIdent (byte : UInt8) : Bool := Comments.isIdent (Char.ofNat byte.toNat)

/-- Whether a raw string may open at a place: the `r` may have a `b` in front but neither may end an
identifier. -/
def mayOpenRaw (bytes : List UInt8) (place : Nat) : Bool :=
  let start := if (bytes.take place).getLast? = some 'b'.toUInt8 then place - 1 else place
  !(bytes.take start).getLast?.any isIdent

def countHashes (bytes : List UInt8) (place : Nat) : Nat :=
  ((bytes.drop place).takeWhile (· == '#'.toUInt8)).length

/-- If a raw string opens at a place, the number of its hashes and the place behind its opening
quote. -/
def rawOpen? (bytes : List UInt8) (place : Nat) : Option (Nat × Nat) :=
  let hashes := countHashes bytes (place + 1)
  if bytes[place]? = some 'r'.toUInt8 ∧ mayOpenRaw bytes place ∧
      bytes[place + 1 + hashes]? = some '"'.toUInt8 then
    some (hashes, place + 2 + hashes)
  else none

def closesRaw (bytes : List UInt8) (hashes place : Nat) : Bool :=
  bytes[place]? == some '"'.toUInt8 &&
    (bytes.drop (place + 1)).take hashes == List.replicate hashes '#'.toUInt8

/-- The place behind the closing of a raw string, looked for from a place on. -/
def rawClose? (bytes : List UInt8) (hashes place : Nat) : Option Nat :=
  ((List.range' place (bytes.length - place)).find? (closesRaw bytes hashes)).map (· + 1 + hashes)

theorem lt_of_rawOpen? {bytes : List UInt8} {place hashes body : Nat}
    (opened : rawOpen? bytes place = some (hashes, body)) : place < body := by
  dsimp only [rawOpen?] at opened
  split at opened
  · cases opened
    omega
  · cases opened

theorem lt_of_rawClose? {bytes : List UInt8} {hashes place behind : Nat}
    (closed : rawClose? bytes hashes place = some behind) : place < behind := by
  obtain ⟨found, there, rfl⟩ := Option.map_eq_some_iff.mp closed
  have le := (List.mem_range'_1.mp (List.mem_of_find?_eq_some there)).1
  omega

def scan (bytes : List UInt8) (inString : Bool) (place : Nat) : Option Nat :=
  if inside : place < bytes.length then
    match opened : if inString then none else rawOpen? bytes place with
    | some (hashes, body) =>
      match closed : rawClose? bytes hashes body with
      | some behind => scan bytes false behind
      | none => none
    | none =>
      let byte := bytes[place]
      if inString ∧ byte = '\\'.toUInt8 then scan bytes inString (place + 2)
      else if byte = '"'.toUInt8 then scan bytes (!inString) (place + 1)
      else if !inString ∧ byte = '\''.toUInt8 ∧ bytes[place + 1]? = some '"'.toUInt8 ∧
          bytes[place + 2]? = some '\''.toUInt8 then
        scan bytes inString (place + 3)
      else if !inString ∧ byte = '/'.toUInt8 ∧ bytes[place + 1]? = some '/'.toUInt8 then some place
      else scan bytes inString (place + 1)
  else none
termination_by bytes.length - place
decreasing_by
  · cases inString with
    | true => cases opened
    | false =>
      have later := lt_of_rawOpen? opened
      have further := lt_of_rawClose? closed
      omega
  all_goals omega

/-- The place of the comment in the bytes of a line. -/
def commentStart (line : List UInt8) : Option Nat := scan line false 0

/-! ## Places between bytes -/

variable {front back bytes : List UInt8} {byte : UInt8} {hashes place : Nat} {inString : Bool}

theorem getElem?_behind (front back : List UInt8) (place : Nat) :
    (front ++ back)[front.length + place]? = back[place]? := by
  rw [List.getElem?_append_right (Nat.le_add_right _ _), Nat.add_sub_cancel_left]

theorem drop_behind (front back : List UInt8) (place : Nat) :
    (front ++ back).drop (front.length + place) = back.drop place := by
  rw [List.drop_append, List.drop_of_length_le (Nat.le_add_right _ _), Nat.add_sub_cancel_left,
    List.nil_append]

/-- A scan that stands in front of the last bytes. -/
theorem scan_end (bytes : List UInt8) (inString : Bool) {place : Nat}
    (past : bytes.length ≤ place) : scan bytes inString place = none := by
  rw [scan, dif_neg (Nat.not_lt.mpr past)]

/-- A scan outside of strings comes to a raw string. -/
theorem scan_raw {body : Nat} (opened : rawOpen? bytes place = some (hashes, body)) :
    scan bytes false place = (rawClose? bytes hashes body).bind (scan bytes false) := by
  have inside : place < bytes.length := by
    rcases Nat.lt_or_ge place bytes.length with less | past
    · exact less
    · dsimp only [rawOpen?] at opened
      rw [List.getElem?_eq_none past, if_neg (fun there => by cases there.1)] at opened
      cases opened
  rw [scan, dif_pos inside]
  split
  · next found =>
    rw [if_neg Bool.false_ne_true, opened] at found
    cases found
    split
    · next closed => rw [closed]; rfl
    · next never => rw [never]; rfl
  · next none =>
    rw [if_neg Bool.false_ne_true, opened] at none
    cases none

/-- What a scan does at a byte where no raw string opens. -/
theorem scan_byte
    (closed : inString = false → rawOpen? (front ++ byte :: back) front.length = none) :
    scan (front ++ byte :: back) inString front.length =
      if inString ∧ byte = '\\'.toUInt8 then
        scan (front ++ byte :: back) inString (front.length + 2)
      else if byte = '"'.toUInt8 then
        scan (front ++ byte :: back) (!inString) (front.length + 1)
      else if !inString ∧ byte = '\''.toUInt8 ∧ back[0]? = some '"'.toUInt8 ∧
          back[1]? = some '\''.toUInt8 then
        scan (front ++ byte :: back) inString (front.length + 3)
      else if !inString ∧ byte = '/'.toUInt8 ∧ back[0]? = some '/'.toUInt8 then some front.length
      else scan (front ++ byte :: back) inString (front.length + 1) := by
  have inside : front.length < (front ++ byte :: back).length := by simp
  have here : (front ++ byte :: back)[front.length] = byte := by simp
  have second : (front ++ byte :: back)[front.length + 1]? = back[0]? :=
    getElem?_behind front (byte :: back) 1
  have third : (front ++ byte :: back)[front.length + 2]? = back[1]? :=
    getElem?_behind front (byte :: back) 2
  have none :
      (if inString then none else rawOpen? (front ++ byte :: back) front.length) = none := by
    cases inString with
    | true => rfl
    | false => exact closed rfl
  rw [scan, dif_pos inside]
  split
  · next found =>
    rw [none] at found
    cases found
  · dsimp only
    rw [here, second, third]

theorem rawOpen?_of_ne (other : byte ≠ 'r'.toUInt8) :
    rawOpen? (front ++ byte :: back) front.length = none := by
  have here : (front ++ byte :: back)[front.length]? = some byte := by simp
  dsimp only [rawOpen?]
  rw [here, if_neg (fun opened => other (Option.some.inj opened.1))]

/-- What looks the same from behind each byte that is not ASCII looks the same from behind some. -/
theorem look_wide {α : Type} (look : List UInt8 → Nat → α)
    (step : ∀ front byte back, IsWide byte →
      look (front ++ byte :: back) front.length = look (front ++ byte :: back) (front.length + 1))
    {middle : List UInt8} (all : ∀ byte ∈ middle, IsWide byte) (front back : List UInt8) :
    look (front ++ (middle ++ back)) front.length =
      look (front ++ (middle ++ back)) (front.length + middle.length) := by
  induction middle generalizing front with
  | nil => rfl
  | cons byte middle ih =>
    have whole : front ++ byte :: (middle ++ back) = front ++ [byte] ++ (middle ++ back) := by simp
    have further : front.length + 1 = (front ++ [byte]).length := by simp
    have behind : front.length + (byte :: middle).length =
        (front ++ [byte]).length + middle.length := by
      simp only [List.length_cons, List.length_append, List.length_nil]
      omega
    rw [List.cons_append, step front byte _ (all byte List.mem_cons_self), whole, behind, further]
    exact ih (fun byte member => all byte (List.mem_cons_of_mem _ member)) _

/-- A scan passes over bytes that are not ASCII. -/
theorem scan_wide {middle : List UInt8} (all : ∀ byte ∈ middle, IsWide byte)
    (front back : List UInt8) (inString : Bool) :
    scan (front ++ (middle ++ back)) inString front.length =
      scan (front ++ (middle ++ back)) inString (front.length + middle.length) := by
  refine look_wide (scan · inString) (fun front byte back wide => ?_) all front back
  rw [scan_byte (fun _ => rawOpen?_of_ne (wide.ne_toUInt8 (by decide))),
    if_neg (fun escape => wide.ne_toUInt8 (by decide) escape.2),
    if_neg (wide.ne_toUInt8 (by decide)),
    if_neg (fun literal => wide.ne_toUInt8 (by decide) literal.2.1),
    if_neg (fun comment => wide.ne_toUInt8 (by decide) comment.2.1)]

theorem quoteLiteral_isPrefix {rest : Text} {c : Char} (ascii : c.toNat < 128)
    (literal : c.toUInt8 = '\''.toUInt8 ∧ (toUtf8 rest)[0]? = some '"'.toUInt8 ∧
      (toUtf8 rest)[1]? = some '\''.toUInt8) : ['\'', '"', '\''] <+: c :: rest := by
  obtain ⟨first, second, third⟩ := literal
  obtain rfl := (toUInt8_eq_iff ascii (by decide)).mp first
  refine List.cons_prefix_cons.mpr ⟨rfl, (toUtf8_prefix_iff (by simp) rest).mp ?_⟩
  have bytes : toUtf8 ['"', '\''] = ['"'.toUInt8, '\''.toUInt8] := by decide
  rw [bytes]
  generalize toUtf8 rest = back at second third ⊢
  match back with
  | [] => cases second
  | [a] => cases third
  | a :: b :: more =>
    cases second
    cases third
    exact List.prefix_append _ more

theorem comment_isPrefix {rest : Text} {c : Char} (ascii : c.toNat < 128)
    (comment : c.toUInt8 = '/'.toUInt8 ∧ (toUtf8 rest)[0]? = some '/'.toUInt8) :
    ['/', '/'] <+: c :: rest := by
  obtain ⟨first, second⟩ := comment
  obtain rfl := (toUInt8_eq_iff ascii (by decide)).mp first
  refine List.cons_prefix_cons.mpr ⟨rfl, (toUtf8_prefix_iff (by simp) rest).mp ?_⟩
  have bytes : toUtf8 ['/'] = ['/'.toUInt8] := by decide
  rw [bytes]
  generalize toUtf8 rest = back at second ⊢
  match back with
  | [] => cases second
  | a :: more =>
    cases second
    exact List.prefix_append _ more

/-- A scan passes over a character that opens nothing and closes nothing. -/
theorem scan_char {c : Char} {rest : Text} (front : List UInt8) (noQuote : c ≠ '"')
    (noEscape : inString = true → c ≠ '\\')
    (noRaw : inString = false → rawOpen? (front ++ toUtf8 (c :: rest)) front.length = none)
    (noLiteral : inString = false → ¬ ['\'', '"', '\''] <+: c :: rest)
    (noComment : inString = false → ¬ ['/', '/'] <+: c :: rest) :
    scan (front ++ toUtf8 (c :: rest)) inString front.length =
      scan (front ++ toUtf8 (c :: rest)) inString (front.length + (toUtf8 [c]).length) := by
  have encodes := encodes_utf8EncodeChar c
  rw [toUtf8_cons] at noRaw ⊢
  rw [toUtf8_singleton]
  generalize String.utf8EncodeChar c = bytes at encodes noRaw ⊢
  cases encodes with
  | wide other all => exact scan_wide all front (toUtf8 rest) inString
  | narrow ascii =>
    rw [List.singleton_append] at noRaw ⊢
    rw [scan_byte noRaw, if_neg, if_neg, if_neg, if_neg, List.length_singleton]
    · rintro ⟨outside, comment⟩
      exact noComment (by simpa using outside) (comment_isPrefix ascii comment)
    · rintro ⟨outside, literal⟩
      exact noLiteral (by simpa using outside) (quoteLiteral_isPrefix ascii literal)
    · exact fun same => noQuote ((toUInt8_eq_iff ascii (by decide)).mp same)
    · exact fun escape => noEscape escape.1 ((toUInt8_eq_iff ascii (by decide)).mp escape.2)

/-- A look at the bytes of `text` goes on from the place behind what is `found` in the text, wherever
the bytes stand. -/
def Follows (look goOn : List UInt8 → Nat → Option Nat) (text : Text)
    (found : Option (Text × Text)) : Prop :=
  ∀ front, look (front ++ toUtf8 text) front.length =
    found.bind fun parts => goOn (front ++ toUtf8 text) (front.length + (toUtf8 parts.1).length)

/-- The same holds from the place behind more text, which is then found with the rest. -/
theorem Follows.behind {look goOn : List UInt8 → Nat → Option Nat} {text : Text}
    {found : Option (Text × Text)} (follows : Follows look goOn text found) (front : List UInt8)
    (start : Text) :
    look (front ++ toUtf8 (start ++ text)) (front.length + (toUtf8 start).length) =
      (found.map fun (taken, rest) => (start ++ taken, rest)).bind fun parts =>
        goOn (front ++ toUtf8 (start ++ text)) (front.length + (toUtf8 parts.1).length) := by
  have later := follows (front ++ toUtf8 start)
  rw [List.append_assoc, ← toUtf8_append, List.length_append] at later
  rw [later]
  cases found with
  | none => rfl
  | some parts =>
    simp only [Option.map_some, Option.bind_some, toUtf8_append, List.length_append, Nat.add_assoc]

/-- A scan in a string goes on behind the quote that closes it. -/
theorem follows_closeString (text : Text) :
    Follows (scan · true) (scan · false) text (closeString text) := by
  fun_induction closeString text with
  | case1 => exact fun front => scan_end _ _ (by simp [toUtf8])
  | case2 =>
    intro front
    have bytes : toUtf8 ['\\'] = ['\\'.toUInt8] := by decide
    dsimp only
    rw [bytes, scan_byte (fun outside => by cases outside), if_pos ⟨rfl, rfl⟩]
    exact scan_end _ _ (by simp)
  | case3 c text ih =>
    intro front
    refine Eq.trans ?_ (ih.behind front ['\\', c])
    -- The byte that is skipped is the character, or the first of its bytes.
    have pair : toUtf8 ['\\', c] = '\\'.toUInt8 :: String.utf8EncodeChar c := by
      rw [toUtf8_cons_of_lt (by decide), toUtf8_singleton]
    have bytes : toUtf8 (['\\', c] ++ text) =
        '\\'.toUInt8 :: (String.utf8EncodeChar c ++ toUtf8 text) := by
      rw [toUtf8_append, pair, List.cons_append]
    have encodes := encodes_utf8EncodeChar c
    change scan (front ++ toUtf8 (['\\', c] ++ text)) true front.length = _
    rw [pair, bytes, scan_byte (fun outside => by cases outside), if_pos ⟨rfl, rfl⟩]
    generalize String.utf8EncodeChar c = hidden at encodes ⊢
    cases encodes with
    | narrow => rfl
    | @wide _ first others all =>
      have parts : front ++ '\\'.toUInt8 :: (first :: others ++ toUtf8 text) =
          front ++ ['\\'.toUInt8, first] ++ (others ++ toUtf8 text) := by simp
      have behind : front.length + ('\\'.toUInt8 :: first :: others).length =
          (front ++ ['\\'.toUInt8, first]).length + others.length := by
        simp only [List.length_cons, List.length_append, List.length_nil]
        omega
      have further : front.length + 2 = (front ++ ['\\'.toUInt8, first]).length := by simp
      rw [parts, behind, further]
      exact scan_wide (fun byte member => all byte (List.mem_cons_of_mem _ member)) _ _ _
  | case4 text =>
    intro front
    dsimp only
    rw [toUtf8_cons_of_lt (by decide), scan_byte (fun outside => by cases outside),
      if_neg (by decide), if_pos rfl]
    rfl
  | case5 c text last escape noQuote ih =>
    intro front
    dsimp only
    rw [scan_char front noQuote (fun _ => ne_escape last escape) (fun outside => by cases outside)
      (fun outside => by cases outside) (fun outside => by cases outside)]
    exact ih.behind front [c]

/-- A scan comes to a string. -/
theorem scan_string (front : List UInt8) (text : Text) :
    scan (front ++ toUtf8 ('"' :: text)) false front.length =
      (closeString text).bind fun parts =>
        scan (front ++ toUtf8 ('"' :: text)) false
          (front.length + (toUtf8 ('"' :: parts.1)).length) := by
  have inside := (follows_closeString text).behind front ['"']
  rw [Option.bind_map] at inside
  refine Eq.trans ?_ inside
  rw [List.singleton_append, toUtf8_cons_of_lt (by decide),
    scan_byte (fun _ => rawOpen?_of_ne (by decide)), if_neg (by decide), if_pos rfl]
  rfl

/-! ## Raw strings -/

theorem isPrefixOf_hashes (hashes : Nat) (text : Text) :
    (List.replicate hashes '#').isPrefixOf text = true ↔
      (toUtf8 text).take hashes = List.replicate hashes '#'.toUInt8 := by
  have ascii : ∀ d ∈ List.replicate hashes '#', d.toNat < 128 := by
    intro d member
    rw [List.eq_of_mem_replicate member]
    decide
  rw [List.isPrefixOf_iff_prefix, ← toUtf8_prefix_iff ascii, toUtf8_replicate (by decide),
    List.prefix_iff_eq_take, List.length_replicate, eq_comm]

theorem rawClose?_end (past : bytes.length ≤ place) : rawClose? bytes hashes place = none := by
  rw [rawClose?, Nat.sub_eq_zero_of_le past]
  rfl

theorem rawClose?_byte :
    rawClose? (front ++ byte :: back) hashes front.length =
      if byte = '"'.toUInt8 ∧ back.take hashes = List.replicate hashes '#'.toUInt8 then
        some (front.length + 1 + hashes)
      else rawClose? (front ++ byte :: back) hashes (front.length + 1) := by
  have size : (front ++ byte :: back).length - front.length =
      (front ++ byte :: back).length - (front.length + 1) + 1 := by
    simp only [List.length_append, List.length_cons]
    omega
  have here : closesRaw (front ++ byte :: back) hashes front.length = true ↔
      byte = '"'.toUInt8 ∧ back.take hashes = List.replicate hashes '#'.toUInt8 := by
    have first : (front ++ byte :: back)[front.length]? = some byte := by simp
    have behind : (front ++ byte :: back).drop (front.length + 1) = back :=
      drop_behind front (byte :: back) 1
    rw [closesRaw, first, behind, Bool.and_eq_true, beq_iff_eq, beq_iff_eq, Option.some_inj]
  rw [rawClose?, size, List.range'_succ, List.find?_cons]
  split
  · next closed => rw [if_pos (here.mp closed)]; rfl
  · next other =>
    rw [if_neg (fun closed => by rw [here.mpr closed] at other; cases other)]
    rfl

/-- Bytes that are not ASCII close no raw string. -/
theorem rawClose?_wide {middle : List UInt8} (all : ∀ byte ∈ middle, IsWide byte)
    (front back : List UInt8) (hashes : Nat) :
    rawClose? (front ++ (middle ++ back)) hashes front.length =
      rawClose? (front ++ (middle ++ back)) hashes (front.length + middle.length) := by
  refine look_wide (rawClose? · hashes) (fun front byte back wide => ?_) all front back
  rw [rawClose?_byte, if_neg (fun closed => wide.ne_toUInt8 (by decide) closed.1)]

/-- A raw string is closed at the same place for bytes and for characters. -/
theorem follows_closeRaw (hashes : Nat) (text : Text) :
    Follows (rawClose? · hashes) (fun _ place => some place) text
      (closeRaw (List.replicate hashes '#') text) := by
  induction text with
  | nil => exact fun front => rawClose?_end (by simp [toUtf8])
  | cons c text ih =>
    intro front
    have passed := ih.behind front [c]
    have encodes := encodes_utf8EncodeChar c
    rw [List.singleton_append, toUtf8_singleton, toUtf8_cons] at passed
    dsimp only
    rw [toUtf8_cons, closeRaw]
    generalize String.utf8EncodeChar c = bytes at encodes passed ⊢
    cases encodes with
    | narrow ascii =>
      have same := and_congr (toUInt8_eq_iff ascii (by decide : '"'.toNat < 128))
        (isPrefixOf_hashes hashes text).symm
      rw [List.singleton_append, rawClose?_byte]
      by_cases closed : c = '"' ∧ (List.replicate hashes '#').isPrefixOf text = true
      · have size : (toUtf8 ('"' :: List.replicate hashes '#')).length = 1 + hashes := by
          rw [toUtf8_cons_of_lt (by decide), toUtf8_replicate (by decide), List.length_cons,
            List.length_replicate, Nat.add_comm]
        rw [if_pos (same.mpr closed), if_pos closed, Option.bind_some, size, Nat.add_assoc]
      · rw [if_neg (fun there => closed (same.mp there)), if_neg closed]
        exact passed
    | wide other all =>
      have inside : c ≠ '"' := by
        rintro rfl
        exact absurd other (by decide)
      rw [rawClose?_wide all, if_neg (fun closed => inside closed.1)]
      exact passed

theorem isIdent_toUInt8 {c : Char} (ascii : c.toNat < 128) :
    isIdent c.toUInt8 = Comments.isIdent c := by
  rw [isIdent, toNat_toUInt8 ascii, Char.ofNat_toNat]

theorem isIdent_eq_false_of_le {c : Char} (other : 128 ≤ c.toNat) : Comments.isIdent c = false := by
  have large : 128 ≤ c.val.toNat := other
  cases ident : Comments.isIdent c with
  | false => rfl
  | true =>
    have letters : c.isAlpha = (decide ('A'.val ≤ c.val ∧ c.val ≤ 'Z'.val) ||
      (decide ('a'.val ≤ c.val) && decide (c.val ≤ 'z'.val))) := rfl
    have digits : c.isDigit = (decide ('0'.val ≤ c.val) && decide (c.val ≤ '9'.val)) := rfl
    have either : Comments.isIdent c = (c == '_' || (c.isAlpha || c.isDigit)) := rfl
    simp only [either, letters, digits, Bool.or_eq_true, Bool.and_eq_true, beq_iff_eq,
      decide_eq_true_eq, UInt32.le_iff_toNat_le] at ident
    rcases ident with rfl | (upper | lower) | digit
    · exact absurd other (by decide)
    · exact absurd (Nat.le_trans large upper.2) (by decide)
    · exact absurd (Nat.le_trans large lower.2) (by decide)
    · exact absurd (Nat.le_trans large digit.2) (by decide)

theorem isIdent_of_isWide (wide : IsWide byte) : isIdent byte = false := by
  refine isIdent_eq_false_of_le ?_
  have small := byte.toNat_lt
  have valid : byte.toNat.isValidChar := .inl (by omega)
  rw [Char.ofNat, dif_pos valid]
  exact wide

/-- The byte in front of a place belongs to an identifier as the character does. -/
theorem any_isIdent_getLast? (text : Text) :
    (toUtf8 text).getLast?.any isIdent = text.getLast?.any Comments.isIdent := by
  rcases List.eq_nil_or_concat text with rfl | ⟨init, c, rfl⟩
  · rfl
  · rw [List.concat_eq_append, List.getLast?_concat]
    rcases toUtf8_concat init c with ⟨ascii, whole⟩ | ⟨other, bytes, last, wide, whole⟩
    · rw [whole, List.getLast?_concat, Option.any_some, Option.any_some, isIdent_toUInt8 ascii]
    · rw [whole, List.getLast?_concat, Option.any_some, Option.any_some, isIdent_of_isWide wide,
        isIdent_eq_false_of_le other]

theorem mayOpenRaw_concat {text : Text} {c : Char} (other : c ≠ 'b') :
    Comments.mayOpenRaw (text ++ [c]).reverse = !Comments.isIdent c := by
  rw [List.reverse_append, List.reverse_singleton, List.singleton_append, Comments.mayOpenRaw]
  · rfl
  · rintro before same
    exact other (List.cons.inj same).1

/-- A raw string may open at the same places for bytes and for characters. -/
theorem mayOpenRaw_toUtf8 (before : Text) (back : List UInt8) :
    mayOpenRaw (toUtf8 before ++ back) (toUtf8 before).length =
      Comments.mayOpenRaw before.reverse := by
  dsimp only [mayOpenRaw]
  rw [List.take_left]
  rcases List.eq_nil_or_concat before with rfl | ⟨init, c, rfl⟩
  · rfl
  rw [List.concat_eq_append]
  by_cases letter : c = 'b'
  · subst letter
    have whole : toUtf8 (init ++ ['b']) = toUtf8 init ++ ['b'.toUInt8] := by
      rw [toUtf8_append]
      rfl
    rw [whole, List.getLast?_concat, if_pos rfl, List.length_append, List.length_singleton,
      Nat.add_sub_cancel, List.append_assoc, List.take_left, any_isIdent_getLast?,
      List.reverse_append, List.reverse_singleton, List.singleton_append, Comments.mayOpenRaw,
      List.head?_reverse]
  · have apart : (toUtf8 (init ++ [c])).getLast? ≠ some 'b'.toUInt8 := by
      rcases toUtf8_concat init c with ⟨ascii, whole⟩ | ⟨other, bytes, last, wide, whole⟩
      · rw [whole, List.getLast?_concat]
        exact fun same => letter ((toUInt8_eq_iff ascii (by decide)).mp (Option.some.inj same))
      · rw [whole, List.getLast?_concat]
        exact fun same => wide.ne_toUInt8 (by decide) (Option.some.inj same)
    rw [if_neg apart, List.take_left, any_isIdent_getLast?, List.getLast?_concat,
      mayOpenRaw_concat letter, Option.any_some]

theorem toUtf8_rawStart (hashes : Nat) :
    toUtf8 (rawStart hashes) =
      'r'.toUInt8 :: (List.replicate hashes '#'.toUInt8 ++ ['"'.toUInt8]) := by
  rw [rawStart, List.cons_append, toUtf8_cons_of_lt (by decide), toUtf8_append,
    toUtf8_replicate (by decide)]
  rfl

theorem countHashes_eq (front back : List UInt8) (byte : UInt8) :
    countHashes (front ++ byte :: back) (front.length + 1) =
      (back.takeWhile (· == '#'.toUInt8)).length := by
  have behind : (front ++ byte :: back).drop (front.length + 1) = back :=
    drop_behind front (byte :: back) 1
  rw [countHashes, behind]

/-- A raw string opens in the bytes where it opens in the text. -/
theorem rawOpen?_rawStart {before : Text} (may : Comments.mayOpenRaw before.reverse = true)
    (hashes : Nat) (body : Text) :
    rawOpen? (toUtf8 before ++ toUtf8 (rawStart hashes ++ body)) (toUtf8 before).length =
      some (hashes, (toUtf8 before).length + (toUtf8 (rawStart hashes)).length) := by
  have marks : ∀ mark ∈ List.replicate hashes '#'.toUInt8, (mark == '#'.toUInt8) = true :=
    fun mark member => by rw [List.eq_of_mem_replicate member]; rfl
  have bytes : toUtf8 (rawStart hashes ++ body) =
      'r'.toUInt8 :: (List.replicate hashes '#'.toUInt8 ++ '"'.toUInt8 :: toUtf8 body) := by
    rw [toUtf8_append, toUtf8_rawStart]
    simp
  have count : countHashes (toUtf8 before ++ toUtf8 (rawStart hashes ++ body))
      ((toUtf8 before).length + 1) = hashes := by
    rw [bytes, countHashes_eq, List.takeWhile_append_of_pos marks, List.takeWhile_cons_of_neg
      (by decide), List.append_nil, List.length_replicate]
  have first : (toUtf8 before ++ toUtf8 (rawStart hashes ++ body))[(toUtf8 before).length]? =
      some 'r'.toUInt8 := by
    rw [bytes]
    exact getElem?_behind (toUtf8 before) _ 0
  have quote : (toUtf8 before ++ toUtf8 (rawStart hashes ++ body))[
      (toUtf8 before).length + 1 + hashes]? = some '"'.toUInt8 := by
    rw [bytes, Nat.add_assoc, getElem?_behind, Nat.add_comm 1, List.getElem?_cons_succ,
      List.getElem?_append_right (by simp)]
    simp
  have size : (toUtf8 (rawStart hashes)).length = 2 + hashes := by
    rw [toUtf8_rawStart, List.length_cons, List.length_append, List.length_replicate,
      List.length_singleton]
    omega
  dsimp only [rawOpen?]
  rw [count, if_pos ⟨first, (mayOpenRaw_toUtf8 before _).trans may, quote⟩, size, Nat.add_assoc]

theorem rawOpen?_eq_none {before text : Text} (noRaw : ¬ OpensRaw before text) :
    rawOpen? (toUtf8 before ++ toUtf8 text) (toUtf8 before).length = none := by
  dsimp only [rawOpen?]
  rw [if_neg]
  rintro ⟨first, may, quote⟩
  rw [mayOpenRaw_toUtf8] at may
  refine noRaw ⟨may, countHashes (toUtf8 before ++ toUtf8 text) ((toUtf8 before).length + 1), ?_⟩
  have ascii : ∀ hashes, ∀ d ∈ rawStart hashes, d.toNat < 128 := by
    intro hashes d member
    simp only [rawStart, List.cons_append, List.mem_cons, List.mem_append, List.mem_replicate,
      List.not_mem_nil, or_false] at member
    rcases member with rfl | ⟨-, rfl⟩ | rfl <;> decide
  rw [← toUtf8_prefix_iff (ascii _), toUtf8_rawStart]
  have start : (toUtf8 text)[0]? = some 'r'.toUInt8 :=
    (getElem?_behind (toUtf8 before) (toUtf8 text) 0).symm.trans first
  generalize toUtf8 text = bytes at quote start ⊢
  cases bytes with
  | nil => cases start
  | cons byte back =>
    cases start
    rw [countHashes_eq] at quote ⊢
    have parts : back.takeWhile (· == '#'.toUInt8) ++ back.dropWhile (· == '#'.toUInt8) = back :=
      List.takeWhile_append_dropWhile
    have marks : back.takeWhile (· == '#'.toUInt8) =
        List.replicate (back.takeWhile (· == '#'.toUInt8)).length '#'.toUInt8 :=
      List.eq_replicate_of_mem fun mark member => by simpa using List.mem_takeWhile_imp member
    have behind := getElem?_behind (back.takeWhile (· == '#'.toUInt8))
      (back.dropWhile (· == '#'.toUInt8)) 0
    rw [Nat.add_assoc, getElem?_behind, Nat.add_comm 1, List.getElem?_cons_succ] at quote
    rw [parts, Nat.add_zero, quote] at behind
    rw [List.cons_prefix_cons, and_iff_right rfl, ← marks]
    cases rest : back.dropWhile (· == '#'.toUInt8) with
    | nil =>
      rw [rest] at behind
      cases behind
    | cons last more =>
      rw [rest] at behind parts
      cases behind
      exact ⟨more, (List.append_assoc _ _ _).trans parts⟩

/-! ## Scans and readings -/

/-- A scan passes over each piece of code. -/
theorem scan_piece {code taken rest : Text} (piece : Piece code taken rest) :
    scan (toUtf8 (code ++ (taken ++ rest))) false (toUtf8 code).length =
      scan (toUtf8 (code ++ (taken ++ rest))) false (toUtf8 (code ++ taken)).length := by
  rw [toUtf8_append code, toUtf8_append code taken, List.length_append]
  cases piece with
  | @raw hashes body may first =>
    have opened := rawOpen?_rawStart may hashes (body ++ rawEnd hashes ++ rest)
    have closed := follows_closeRaw hashes (body ++ rawEnd hashes ++ rest)
      (toUtf8 code ++ toUtf8 (rawStart hashes))
    dsimp only at closed
    rw [closeRaw_of_body first, Option.bind_some, List.length_append, List.append_assoc,
      ← toUtf8_append] at closed
    have whole : rawStart hashes ++ body ++ rawEnd hashes ++ rest =
        rawStart hashes ++ (body ++ rawEnd hashes ++ rest) := by simp only [List.append_assoc]
    have size : (toUtf8 (rawStart hashes ++ body ++ rawEnd hashes)).length =
        (toUtf8 (rawStart hashes)).length + (toUtf8 (body ++ rawEnd hashes)).length := by
      rw [List.append_assoc, toUtf8_append, List.length_append]
    rw [whole, scan_raw opened, closed, Option.bind_some, size, Nat.add_assoc]
  | @string body escaped =>
    have whole : '"' :: body ++ ['"'] ++ rest = '"' :: (body ++ '"' :: rest) := by simp
    rw [whole, scan_string, closeString_of_escaped escaped, Option.bind_some, List.cons_append]
  | quoteLiteral =>
    have bytes : toUtf8 (['\'', '"', '\''] ++ rest) =
        '\''.toUInt8 :: '"'.toUInt8 :: '\''.toUInt8 :: toUtf8 rest := by
      rw [toUtf8_append]
      rfl
    rw [bytes, scan_byte (fun _ => rawOpen?_of_ne (by decide)), if_neg (by decide),
      if_neg (by decide), if_pos ⟨rfl, rfl, rfl, rfl⟩]
    rfl
  | @single c _ noString noRaw noLiteral noComment =>
    exact scan_char (toUtf8 code) noString (fun inside => by cases inside)
      (fun _ => rawOpen?_eq_none noRaw) (fun _ => noLiteral) (fun _ => noComment)

theorem scan_unclosed {code text : Text} (unclosed : Unclosed code text) :
    scan (toUtf8 (code ++ text)) false (toUtf8 code).length = none := by
  rw [toUtf8_append]
  cases unclosed with
  | @raw hashes body may never =>
    have closed := follows_closeRaw hashes body (toUtf8 code ++ toUtf8 (rawStart hashes))
    dsimp only at closed
    rw [closeRaw_eq_none_iff.mpr never, Option.bind_none, List.length_append, List.append_assoc,
      ← toUtf8_append] at closed
    rw [scan_raw (rawOpen?_rawStart may hashes body), closed, Option.bind_none]
  | @string body never =>
    rw [scan_string, closeString_eq_none_iff.mpr never, Option.bind_none]

theorem scan_comment (code text : Text) :
    scan (toUtf8 (code ++ '/' :: '/' :: text)) false (toUtf8 code).length =
      some (toUtf8 code).length := by
  rw [toUtf8_append, toUtf8_cons_of_lt (by decide), toUtf8_cons_of_lt (by decide),
    scan_byte (fun _ => rawOpen?_of_ne (by decide)), if_neg (by decide), if_neg (by decide),
    if_neg (fun literal => absurd literal.2.1 (by decide)), if_pos ⟨rfl, rfl, rfl⟩]

/-- A scan has come as far as a reading. -/
theorem commentStart_eq_scan {line code rest : Text} (reading : Reading line code rest) :
    commentStart (toUtf8 line) = scan (toUtf8 line) false (toUtf8 code).length := by
  induction reading with
  | start => rfl
  | @step code taken rest earlier piece ih =>
    rw [ih, ← earlier.append_eq, scan_piece piece]

/-- A scan for the comment of a line finds the place where the line is split. -/
theorem commentStart_toUtf8 (line : Text) :
    commentStart (toUtf8 line) = (split? line).map fun parts => (toUtf8 parts.1).length := by
  obtain ⟨code, rest, reading, comment | ends⟩ := Reading.goesOn (.start : Reading line [] line)
  · obtain ⟨text, rfl⟩ := comment
    rw [commentStart_eq_scan reading, reading.split?_eq_some (List.prefix_append _ _),
      ← reading.append_eq]
    exact scan_comment code text
  · rw [commentStart_eq_scan reading, reading.split?_eq_none ends, ← reading.append_eq]
    rcases ends with rfl | unclosed
    · rw [List.append_nil, scan_end _ _ (Nat.le_refl _), Option.map_none]
    · rw [scan_unclosed unclosed, Option.map_none]

/-- A scan of the bytes of a line keeps in step with a reading of its characters. It finds a place
exactly if a reading comes to a comment there, and none exactly if a reading comes to the end of the
line or to a string that is never closed. The place that it finds lies between two characters: the
bytes in front of it are those of the code that the line is cut down to, and the bytes behind it are
those of the comment. -/
theorem commentStart_iff_reading (line : Text) :
    commentStart (toUtf8 line) = ((split? line).map fun parts => (toUtf8 parts.1).length) ∧
      (∀ place, commentStart (toUtf8 line) = some place ↔
        ∃ code comment, Reading line code comment ∧ ['/', '/'] <+: comment ∧
          place = (toUtf8 code).length) ∧
      (commentStart (toUtf8 line) = none ↔
        ∃ code rest, Reading line code rest ∧ (rest = [] ∨ Unclosed code rest)) ∧
      ∀ place, commentStart (toUtf8 line) = some place →
        ∃ code comment, split? line = some (code, comment) ∧
          (toUtf8 line).take place = toUtf8 code ∧ (toUtf8 line).drop place = toUtf8 comment := by
  have step := commentStart_toUtf8 line
  refine ⟨step, fun place => ?_, ?_, fun place found => ?_⟩
  · rw [step, Option.map_eq_some_iff]
    constructor
    · rintro ⟨⟨code, comment⟩, split, rfl⟩
      obtain ⟨reading, slashes⟩ := split?_eq_some_iff.mp split
      exact ⟨code, comment, reading, slashes, rfl⟩
    · rintro ⟨code, comment, reading, slashes, rfl⟩
      exact ⟨(code, comment), split?_eq_some_iff.mpr ⟨reading, slashes⟩, rfl⟩
  · rw [step, Option.map_eq_none_iff]
    exact split?_eq_none_iff
  · rw [step] at found
    obtain ⟨⟨code, comment⟩, split, rfl⟩ := Option.map_eq_some_iff.mp found
    have whole := (split?_eq_some_iff.mp split).1.append_eq
    refine ⟨code, comment, split, ?_, ?_⟩
    · rw [← whole, toUtf8_append, List.take_left]
    · rw [← whole, toUtf8_append, List.drop_left]

end ParserRefresh.Comments.Bytes
