import Docket.Number.Notation
import Docket.Text.Basic

/-! Binary floating point numbers of 64 bits, read from decimal texts and compared. -/

namespace Docket

/-- A number of 64 bits. The finite ones are multiples of the least positive one, `2 ^ -1074`;
both zeros are equal. -/
inductive Binary64 where
  | finite (units : Int)
  | infinite (negative : Bool)
  | nan
deriving DecidableEq, Repr

namespace Binary64

/-- The number of units in one. -/
def unitsInOne : Nat :=
  Nat.pow 2 1074

/-- The least number of units that is too large for a finite number. -/
def unitLimit : Nat :=
  Nat.pow 2 (1024 + 1074)

/-- The nearest whole number of units with at most 53 significant bits; ties go to even. -/
def nearestUnits (dividend divisor : Nat) : Nat :=
  let bits := (dividend / divisor).log2 + 1
  if bits ≤ 53 then Number.roundedQuotient dividend divisor
  else
    let spacing := Nat.pow 2 (bits - 53)
    Number.roundedQuotient dividend (divisor * spacing) * spacing

/-- The number nearest to a quotient. -/
def ofQuotient (negative : Bool) (dividend divisor : Nat) : Binary64 :=
  let units := nearestUnits (dividend * unitsInOne) divisor
  if unitLimit ≤ units then .infinite negative
  else .finite (if negative then -units else units)

/-- The number nearest to `digits * 10 ^ exponent`, where `digits` has `count` digits. Far beyond
the range the powers are not computed. -/
def ofDecimal (negative : Bool) (digits count : Nat) (exponent : Int) : Binary64 :=
  if digits = 0 then .finite 0
  else if exponent + count > 400 then .infinite negative
  else if exponent + count < -400 then .finite 0
  else if 0 ≤ exponent then ofQuotient negative (digits * Nat.pow 10 exponent.toNat) 1
  else ofQuotient negative digits (Nat.pow 10 (-exponent).toNat)

/-- The sign of a text, whether it is a minus, and the rest. -/
def sign (text : Text) : Bool × Text :=
  match text with
  | '-' :: rest => (true, rest)
  | '+' :: rest => (false, rest)
  | rest => (false, rest)

/-- Whether a character is a decimal digit. -/
def isDigit (char : Char) : Bool :=
  '0' ≤ char && char ≤ '9'

/-- The exponent at the end of a number; a missing one is zero. -/
def exponent? (text : Text) : Option Int :=
  match text with
  | [] => some 0
  | mark :: rest =>
    if mark == 'e' || mark == 'E' then
      let (negative, digits) := sign rest
      (Text.natural? digits).map fun size => if negative then -Int.ofNat size else Int.ofNat size
    else none

/-- An unsigned decimal: digits with at most one point and an optional exponent. -/
def decimal? (negative : Bool) (text : Text) : Option Binary64 :=
  let whole := text.takeWhile isDigit
  let rest := text.dropWhile isDigit
  let (fraction, rest) := match rest with
    | '.' :: rest => (rest.takeWhile isDigit, rest.dropWhile isDigit)
    | rest => ([], rest)
  let digits := whole ++ fraction
  match Text.natural? digits, exponent? rest with
  | some value, some exponent =>
    let count := (digits.dropWhile (· == '0')).length
    some (ofDecimal negative value count (exponent - fraction.length))
  | _, _ => none

/-- The number that a text names: a decimal, an infinity, or no number at all. -/
def read? (text : Text) : Option Binary64 :=
  let (negative, rest) := sign text
  let word := Text.asciiLower rest
  if word == "inf".toList || word == "infinity".toList then some (.infinite negative)
  else if word == "nan".toList then some .nan
  else decimal? negative rest

/-- The order of two numbers; what is no number has no order. -/
def compare? (left right : Binary64) : Option Ordering :=
  match left, right with
  | .nan, _ => none
  | _, .nan => none
  | .finite a, .finite b => some (Ord.compare a b)
  | .infinite a, .infinite b => some (Ord.compare b a)
  | .finite _, .infinite b => some (if b then .gt else .lt)
  | .infinite a, .finite _ => some (if a then .lt else .gt)

/-- The exact number that a floating point number stands for. -/
def ofFloat (value : Float) : Binary64 :=
  let bits := value.toBits.toNat
  let negative := bits >>> 63 = 1
  let exponent := (bits >>> 52) % 2048
  let fraction := bits % (1 <<< 52)
  if exponent = 2047 then if fraction = 0 then .infinite negative else .nan
  else
    let units := if exponent = 0 then fraction else (fraction + (1 <<< 52)) <<< (exponent - 1)
    .finite (if negative then -(units : Int) else (units : Int))

end Binary64

/-- The part of a total as a percentage with four places; the quotient and the product with a
hundred are each rounded to 64 bits. -/
def Number.percentage (part total : Nat) : Text :=
  if total = 0 then Number.fixedPlaces 4 0 1
  else
    let ratio := Binary64.nearestUnits (part * Binary64.unitsInOne) total
    Number.fixedPlaces 4 (Binary64.nearestUnits (ratio * 100) 1) Binary64.unitsInOne

/-- A number of bytes in units of `2 ^ 20` bytes, with two places. -/
def Number.megabytes (bytes : Nat) : Text :=
  Number.fixedPlaces 2 bytes 0x100000

end Docket
