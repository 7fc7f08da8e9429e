import ParserRefresh.Text.Utf8

/-! # Printed text

What is printed may be written with escapes: a backslash and a letter, or up to three octal
digits. A format is printed again as long as there are arguments that it has not used. -/

namespace ParserRefresh.Shell.Printed

def octal? (c : Char) : Option Nat := if '0' ≤ c ∧ c ≤ '7' then some (c.toNat - '0'.toNat) else none

/-- The number that up to `count` octal digits at the start stand for, and the rest. -/
def octalNumber : Nat → Nat → Text → Nat × Text
  | count + 1, value, c :: text =>
    match octal? c with
    | some digit => octalNumber count (value * 8 + digit) text
    | none => (value, c :: text)
  | _, value, text => (value, text)

theorem length_octalNumber_le (count value : Nat) (text : Text) :
    (octalNumber count value text).2.length ≤ text.length := by
  induction count generalizing value text with
  | zero => simp [octalNumber]
  | succ count ih =>
    cases text with
    | nil => simp [octalNumber]
    | cons c text =>
      rw [octalNumber]
      split
      · exact Nat.le_succ_of_le (ih ..)
      · simp

def letter? : Char → Option UInt8
  | 'a' => some 7
  | 'b' => some 8
  | 't' => some 9
  | 'n' => some 10
  | 'v' => some 11
  | 'f' => some 12
  | 'r' => some 13
  | '\\' => some 92
  | _ => none

inductive Escape where
  | bytes (bytes : List UInt8)
  /-- Nothing after it is printed. -/
  | stop

/-- Reads what follows a backslash. A leading zero may be in front of three digits more when
`zeroed` holds. -/
def escape (zeroed : Bool) (text : Text) : Escape × Text :=
  match text with
  | [] => (.bytes [92], [])
  | 'c' :: rest => (.stop, rest)
  | c :: rest =>
    match letter? c, octal? c with
    | some byte, _ => (.bytes [byte], rest)
    | none, some digit =>
      let (value, rest) := octalNumber (if zeroed ∧ c = '0' then 3 else 2) digit rest
      (.bytes [UInt8.ofNat value], rest)
    | none, none => (.bytes (92 :: String.utf8EncodeChar c), rest)

theorem length_escape_le (zeroed : Bool) (text : Text) :
    (escape zeroed text).2.length ≤ text.length := by
  unfold escape
  split
  · simp
  · simp
  · next rest =>
    split
    · simp
    · exact Nat.le_succ_of_le (length_octalNumber_le ..)
    · simp

/-- The bytes of a text with escapes, and whether it ends before its end. -/
def unescape (zeroed : Bool) : Text → List UInt8 × Bool
  | [] => ([], false)
  | '\\' :: text =>
    match _read : escape zeroed text with
    | (.stop, _) => ([], true)
    | (.bytes bytes, rest) =>
      let (more, stopped) := unescape zeroed rest
      (bytes ++ more, stopped)
  | c :: text =>
    let (more, stopped) := unescape zeroed text
    (String.utf8EncodeChar c ++ more, stopped)
termination_by text => text.length
decreasing_by
  · have := length_escape_le zeroed text
    rw [_read] at this
    exact Nat.lt_succ_of_le this
  · simp

/-- A step of printing: what has been printed, the arguments that are left, and whether the
printing has stopped. -/
structure Progress where
  bytes : List UInt8 := []
  args : List Text
  used : Bool := false
  stopped : Bool := false

def Progress.print (progress : Progress) (bytes : List UInt8) : Progress :=
  { progress with bytes := progress.bytes ++ bytes }

def Progress.take (progress : Progress) : Text × Progress :=
  (progress.args.headD [], { progress with args := progress.args.tail, used := true })

def numeral (text : Text) : Text :=
  let (sign, digits) := match text with
    | '-' :: rest => (['-'], rest)
    | '+' :: rest => ([], rest)
    | digits => ([], digits)
  match (digits.takeWhile Char.isDigit).dropWhile (· == '0') with
  | [] => ['0']
  | digits => sign ++ digits

/-- Prints the next argument as a letter in the format asks. -/
def directive (letter : Char) (progress : Progress) : Progress :=
  let (arg, taken) := progress.take
  match letter with
  | '%' => progress.print [37]
  | 's' => taken.print (Text.toUtf8 arg)
  | 'c' => taken.print (Text.toUtf8 (arg.take 1))
  | 'd' | 'i' | 'u' => taken.print (Text.toUtf8 (numeral arg))
  | 'b' =>
    let (bytes, stopped) := unescape true arg
    { taken.print bytes with stopped }
  | letter => { progress.print (Text.toUtf8 ['%', letter]) with stopped := true }

def once (format : Text) (progress : Progress) : Progress :=
  if progress.stopped then progress
  else
    match format with
    | [] => progress
    | '%' :: letter :: format => once format (directive letter progress)
    | '\\' :: format =>
      match _read : escape false format with
      | (.stop, _) => { progress with stopped := true }
      | (.bytes bytes, rest) => once rest (progress.print bytes)
    | c :: format => once format (progress.print (String.utf8EncodeChar c))
termination_by format.length
decreasing_by
  · simp only [List.length_cons]
    omega
  · have := length_escape_le false format
    rw [_read] at this
    exact Nat.lt_succ_of_le this
  · simp

def again (format : Text) : Nat → Progress → Progress
  | 0, progress => progress
  | count + 1, progress =>
    let after := once format { progress with used := false }
    if after.stopped ∨ !after.used ∨ after.args.isEmpty then after else again format count after

def formatted (format : Text) (args : List Text) : List UInt8 :=
  (again format (args.length + 1) { args }).bytes

end ParserRefresh.Shell.Printed
