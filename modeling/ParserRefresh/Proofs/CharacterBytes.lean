import ParserRefresh.Text.Utf8
import Mathlib.Tactic.SplitIfs

/-! # Bytes of characters

An ASCII character is its own byte, and no byte of another character is one of an ASCII character.
So ASCII characters are found in the bytes of a text where they stand in the text. -/

namespace ParserRefresh.Text

/-- A byte that belongs to a character of more than one byte. -/
def IsWide (byte : UInt8) : Prop := 128 ≤ byte.toNat

/-- The bytes of a character: an ASCII character is its own byte, and no byte of another character
is one of an ASCII character. -/
inductive Encodes (c : Char) : List UInt8 → Prop where
  | narrow (ascii : c.toNat < 128) : Encodes c [c.toUInt8]
  | wide (other : 128 ≤ c.toNat) {first : UInt8} {others : List UInt8}
      (all : ∀ byte ∈ first :: others, IsWide byte) : Encodes c (first :: others)

theorem isWide_of_mem_utf8EncodeChar {c : Char} (other : 128 ≤ c.toNat) {byte : UInt8}
    (member : byte ∈ String.utf8EncodeChar c) : IsWide byte := by
  have large : 128 ≤ c.val.toNat := other
  have small : ¬ c.val.toNat ≤ 127 := by omega
  unfold String.utf8EncodeChar at member
  dsimp only at member
  rw [if_neg small] at member
  unfold IsWide
  split_ifs at member
  all_goals
    simp only [List.mem_cons, List.not_mem_nil, or_false] at member
    rcases member with rfl | rfl | rfl | rfl
  all_goals
    rw [UInt8.toNat_ofNat']
    omega

theorem utf8EncodeChar_of_lt {c : Char} (ascii : c.toNat < 128) :
    String.utf8EncodeChar c = [c.toUInt8] := by
  have small : c.val.toNat ≤ 127 := Nat.le_of_lt_succ ascii
  rw [String.utf8EncodeChar, if_pos small]
  rfl

theorem encodes_utf8EncodeChar (c : Char) : Encodes c (String.utf8EncodeChar c) := by
  rcases Nat.lt_or_ge c.toNat 128 with ascii | other
  · rw [utf8EncodeChar_of_lt ascii]
    exact .narrow ascii
  · have all := @isWide_of_mem_utf8EncodeChar c other
    have size := String.length_utf8EncodeChar c
    cases bytes : String.utf8EncodeChar c with
    | nil =>
      rw [bytes] at size
      exact absurd size.symm (Nat.ne_of_gt c.utf8Size_pos)
    | cons first others =>
      rw [bytes] at all
      exact .wide other (fun byte member => all member)

theorem toUtf8_append (text more : Text) : toUtf8 (text ++ more) = toUtf8 text ++ toUtf8 more :=
  List.flatMap_append

theorem toUtf8_cons (c : Char) (text : Text) :
    toUtf8 (c :: text) = String.utf8EncodeChar c ++ toUtf8 text := rfl

theorem toUtf8_cons_of_lt {c : Char} (ascii : c.toNat < 128) (text : Text) :
    toUtf8 (c :: text) = c.toUInt8 :: toUtf8 text := by
  rw [toUtf8_cons, utf8EncodeChar_of_lt ascii, List.singleton_append]

theorem toUtf8_singleton (c : Char) : toUtf8 [c] = String.utf8EncodeChar c := List.append_nil _

theorem toUtf8_eq_nil_iff {text : Text} : toUtf8 text = [] ↔ text = [] := by
  cases text with
  | nil => exact iff_of_true rfl rfl
  | cons c text =>
    refine iff_of_false (fun nothing => ?_) (List.cons_ne_nil c text)
    have encodes := encodes_utf8EncodeChar c
    rw [(List.append_eq_nil_iff.mp nothing).1] at encodes
    cases encodes

theorem toUtf8_replicate {c : Char} (ascii : c.toNat < 128) (count : Nat) :
    toUtf8 (List.replicate count c) = List.replicate count c.toUInt8 := by
  induction count with
  | zero => rfl
  | succ count ih =>
    rw [List.replicate_succ, toUtf8_cons_of_lt ascii, ih, List.replicate_succ]

theorem toNat_toUInt8 {c : Char} (ascii : c.toNat < 128) : c.toUInt8.toNat = c.toNat := by
  have value : c.toUInt8.toNat = c.toNat % 256 := rfl
  omega

theorem toUInt8_eq_iff {c d : Char} (ascii : c.toNat < 128) (ascii' : d.toNat < 128) :
    c.toUInt8 = d.toUInt8 ↔ c = d := by
  rw [← UInt8.toNat_inj, toNat_toUInt8 ascii, toNat_toUInt8 ascii', Char.toNat_inj]

theorem IsWide.ne_toUInt8 {byte : UInt8} (wide : IsWide byte) {d : Char} (ascii : d.toNat < 128) :
    byte ≠ d.toUInt8 := by
  rintro rfl
  rw [IsWide, toNat_toUInt8 ascii] at wide
  omega

/-- A text begins with ASCII characters exactly if its bytes begin with theirs. -/
theorem toUtf8_prefix_iff {marks : Text} (ascii : ∀ d ∈ marks, d.toNat < 128) (text : Text) :
    toUtf8 marks <+: toUtf8 text ↔ marks <+: text := by
  induction marks generalizing text with
  | nil => exact iff_of_true List.nil_prefix List.nil_prefix
  | cons d marks ih =>
    have first := ascii d List.mem_cons_self
    have others := ih (fun e member => ascii e (List.mem_cons_of_mem _ member))
    rw [toUtf8_cons, utf8EncodeChar_of_lt first]
    cases text with
    | nil => simp [toUtf8]
    | cons c text =>
      rw [toUtf8_cons, List.cons_prefix_cons]
      have encodes := encodes_utf8EncodeChar c
      generalize String.utf8EncodeChar c = bytes at encodes ⊢
      cases encodes with
      | narrow ascii' =>
        rw [List.singleton_append, List.singleton_append, List.cons_prefix_cons,
          toUInt8_eq_iff first ascii', others]
      | wide other all =>
        have differs := (all _ List.mem_cons_self).ne_toUInt8 first
        have apart : d ≠ c := by
          rintro rfl
          omega
        rw [List.singleton_append, List.cons_append, List.cons_prefix_cons]
        exact iff_of_false (fun same => differs same.1.symm) (fun same => apart same.1)

/-- The last byte of a text is its last character, or it is not ASCII as this is not. -/
theorem toUtf8_concat (text : Text) (c : Char) :
    (c.toNat < 128 ∧ toUtf8 (text ++ [c]) = toUtf8 text ++ [c.toUInt8]) ∨
      128 ≤ c.toNat ∧ ∃ bytes last, IsWide last ∧ toUtf8 (text ++ [c]) = bytes ++ [last] := by
  rw [toUtf8_append, toUtf8_singleton]
  have encodes := encodes_utf8EncodeChar c
  generalize String.utf8EncodeChar c = bytes at encodes ⊢
  cases encodes with
  | narrow ascii => exact .inl ⟨ascii, rfl⟩
  | @wide other first others all =>
    have last := all _ (List.getLast_mem (List.cons_ne_nil first others))
    refine .inr ⟨other, toUtf8 text ++ (first :: others).dropLast, _, last, ?_⟩
    rw [List.append_assoc, List.dropLast_concat_getLast]

end ParserRefresh.Text
