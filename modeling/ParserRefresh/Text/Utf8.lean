import ParserRefresh.Text.Basic

/-! # UTF-8

Bytes are read as characters from the left. Where no character can be read, the longest start of
one that does stand there is one ill-formed piece. A strict reading refuses such pieces, a lenient
one puts the replacement character in their place. -/

namespace ParserRefresh.Text

/-- What the first byte of a character announces: how many bytes follow, the least and the
greatest value of the next one, and the bits it contributes itself. -/
structure Lead where
  following : Nat
  least : Nat
  greatest : Nat
  bits : Nat

def Lead.ofByte? (byte : Nat) : Option Lead :=
  if byte < 0x80 then some ⟨0, 0, 0, byte⟩
  else if byte < 0xC2 then none
  else if byte < 0xE0 then some ⟨1, 0x80, 0xBF, byte - 0xC0⟩
  else if byte = 0xE0 then some ⟨2, 0xA0, 0xBF, 0⟩
  else if byte = 0xED then some ⟨2, 0x80, 0x9F, 0xD⟩
  else if byte < 0xF0 then some ⟨2, 0x80, 0xBF, byte - 0xE0⟩
  else if byte = 0xF0 then some ⟨3, 0x90, 0xBF, 0⟩
  else if byte < 0xF4 then some ⟨3, 0x80, 0xBF, byte - 0xF0⟩
  else if byte = 0xF4 then some ⟨3, 0x80, 0x8F, 4⟩
  else none

/-- Reads the bytes that follow a first byte; nothing stands for an ill-formed piece. -/
def follow : Nat → Nat → Nat → Nat → List UInt8 → Option Char × List UInt8
  | 0, _, _, bits, bytes => (some (Char.ofNat bits), bytes)
  | _ + 1, _, _, _, [] => (none, [])
  | following + 1, least, greatest, bits, byte :: bytes =>
    if least ≤ byte.toNat ∧ byte.toNat ≤ greatest then
      follow following 0x80 0xBF (bits * 64 + (byte.toNat - 0x80)) bytes
    else (none, byte :: bytes)

theorem follow_length_le (following least greatest bits : Nat) (bytes : List UInt8) :
    (follow following least greatest bits bytes).2.length ≤ bytes.length := by
  induction following generalizing least greatest bits bytes with
  | zero => simp [follow]
  | succ following ih =>
    cases bytes with
    | nil => simp [follow]
    | cons byte bytes =>
      rw [follow]
      split
      · exact Nat.le_succ_of_le (ih ..)
      · simp

def decode : List UInt8 → List (Option Char)
  | [] => []
  | byte :: bytes =>
    match Lead.ofByte? byte.toNat with
    | none => none :: decode bytes
    | some lead =>
      let read := follow lead.following lead.least lead.greatest lead.bits bytes
      read.1 :: decode read.2
termination_by bytes => bytes.length
decreasing_by
  · simp
  · exact Nat.lt_succ_of_le (follow_length_le ..)

def ofUtf8? (bytes : List UInt8) : Option Text := (decode bytes).mapM id

/-- The text of any bytes, with the replacement character for each ill-formed piece. -/
def ofUtf8Lenient (bytes : List UInt8) : Text :=
  (decode bytes).map (fun read => read.getD '\uFFFD')

def toUtf8 (text : Text) : List UInt8 := text.flatMap String.utf8EncodeChar

def utf8Size (text : Text) : Nat := text.foldr (fun c size => c.utf8Size + size) 0

end ParserRefresh.Text
