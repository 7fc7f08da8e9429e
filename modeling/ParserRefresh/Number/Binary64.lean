import ParserRefresh.Text.Basic

/-! # Binary numbers with 53 digits

A finite number is a whole number below `Nat.pow 2 53` times a power of two that is at least
`2 ^ -1074`. A decimal is read as the nearest such number, a tie going to the even one. A number
is shown by the fewest decimal digits that read back as it, and of these the nearest, without an
exponent. -/

namespace ParserRefresh

/-- A number of the format, or one of the three values that stand for none. -/
inductive Binary64 where
  | nan
  | infinite (negative : Bool)
  | finite (negative : Bool) (mantissa : Nat) (exponent : Int)
  deriving DecidableEq

namespace Binary64

def leastExponent : Int := -1074

/-- The exponent from which a number is too large. -/
def exponentLimit : Int := 972

/-- `n` times a power of two as a fraction, for a power of any sign. -/
def timesPower (base : Nat) (power : Int) (fraction : Nat × Nat) : Nat × Nat :=
  if 0 ≤ power then (fraction.1 * Nat.pow base power.toNat, fraction.2)
  else (fraction.1, fraction.2 * Nat.pow base (-power).toNat)

/-- The whole number nearest to a fraction; a tie goes to the even one. -/
def nearest (fraction : Nat × Nat) : Nat :=
  let whole := fraction.1 / fraction.2
  let double := 2 * (fraction.1 % fraction.2)
  if double < fraction.2 ∨ (double = fraction.2 ∧ whole % 2 = 0) then whole else whole + 1

/-- The number nearest to a positive fraction. -/
def ofFraction (negative : Bool) (fraction : Nat × Nat) : Binary64 :=
  let size : Int := (Nat.log2 fraction.1 : Int) - Nat.log2 fraction.2
  let guess := max leastExponent (size - 53)
  let room := timesPower 2 (-guess) fraction
  let exponent := if Nat.pow 2 53 ≤ room.1 / room.2 then guess + 1 else guess
  let mantissa := nearest (timesPower 2 (-exponent) fraction)
  let (mantissa, exponent) :=
    if mantissa = Nat.pow 2 53 then (Nat.pow 2 52, exponent + 1) else (mantissa, exponent)
  if exponentLimit ≤ exponent then .infinite negative else .finite negative mantissa exponent

/-- The number nearest to `digits * 10 ^ scale`. A decimal far beyond the range of the format is
settled by its size alone. -/
def ofDecimal (negative : Bool) (digits : Nat) (scale : Int) : Binary64 :=
  let size : Int := (Nat.toDigits 10 digits).length + scale
  if digits = 0 ∨ size < -400 then .finite negative 0 leastExponent
  else if 400 < size then .infinite negative
  else ofFraction negative (timesPower 10 scale (digits, 1))

def isZero : Binary64 → Bool
  | .finite _ 0 _ => true
  | _ => false

/-- The bounds of the decimals that read back as a number: the halves of the way to its
neighbours, in units of the second component. -/
def bounds (mantissa : Nat) (exponent : Int) : (Nat × Nat) × (Nat × Nat) :=
  let below :=
    if mantissa = Nat.pow 2 52 ∧ leastExponent < exponent then
      timesPower 2 (exponent - 2) (4 * mantissa - 1, 1)
    else timesPower 2 (exponent - 1) (2 * mantissa - 1, 1)
  (below, timesPower 2 (exponent - 1) (2 * mantissa + 1, 1))

/-- Whether a decimal reads back as the number with the given bounds, which belong to it when its
mantissa is even. -/
def readsBack (mantissa : Nat) (exponent : Int) (digits : Nat) (scale : Int) : Bool :=
  let (below, above) := bounds mantissa exponent
  let decimal := timesPower 10 scale (digits, 1)
  let low := below.1 * decimal.2
  let here := decimal.1 * below.2
  let left := decimal.1 * above.2
  let high := above.1 * decimal.2
  if mantissa % 2 = 0 then low ≤ here && left ≤ high else low < here && left < high

/-- The decimal of the coarsest of the next `grids` grids from `10 ^ scale` down that has a point
which reads back as the number. -/
def shortestFrom (mantissa : Nat) (exponent : Int) : Nat → Int → Nat × Int
  | 0, scale => (nearest (timesPower 10 (-scale) (timesPower 2 exponent (mantissa, 1))), scale)
  | grids + 1, scale =>
    let value := timesPower 10 (-scale) (timesPower 2 exponent (mantissa, 1))
    let floor := value.1 / value.2
    let close := nearest value
    let far := if close = floor then floor + 1 else floor
    if readsBack mantissa exponent close scale then (close, scale)
    else if readsBack mantissa exponent far scale then (far, scale)
    else shortestFrom mantissa exponent grids (scale - 1)

def shortest (mantissa : Nat) (exponent : Int) : Nat × Int :=
  let value := timesPower 2 exponent (mantissa, 1)
  let size : Int :=
    if value.2 ≤ value.1 then (Nat.toDigits 10 (value.1 / value.2)).length
    else 1 - (Nat.toDigits 10 (value.2 / value.1)).length
  shortestFrom mantissa exponent 20 size

def positional (digits : Nat) (scale : Int) : Text :=
  let shown := Nat.toDigits 10 digits
  if 0 ≤ scale then shown ++ List.replicate scale.toNat '0'
  else
    let places := (-scale).toNat
    if places < shown.length then
      shown.take (shown.length - places) ++ '.' :: shown.drop (shown.length - places)
    else '0' :: '.' :: List.replicate (places - shown.length) '0' ++ shown

def dropZeros : Nat → Nat → Int → Nat × Int
  | 0, digits, scale => (digits, scale)
  | steps + 1, digits, scale =>
    if digits % 10 = 0 ∧ digits ≠ 0 then dropZeros steps (digits / 10) (scale + 1)
    else (digits, scale)

def toText : Binary64 → Text
  | .nan => "NaN".toList
  | .infinite negative => (if negative then ['-'] else []) ++ "inf".toList
  | .finite negative mantissa exponent =>
    let sign := if negative then ['-'] else []
    if mantissa = 0 then sign ++ ['0']
    else
      let (digits, scale) := shortest mantissa exponent
      let (digits, scale) := dropZeros 20 digits scale
      sign ++ positional digits scale

def toPointedText (number : Binary64) : Text :=
  match number with
  | .finite .. => if number.toText.contains '.' then number.toText else number.toText ++ ".0".toList
  | _ => number.toText

end Binary64

end ParserRefresh
