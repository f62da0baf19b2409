import Docket.Text.Basic

/-! Whole numbers in decimal: reading texts and writing values of 64 bits. -/

namespace Docket.Text

/-- The value of a decimal digit. -/
def digit? (char : Char) : Option Nat :=
  if '0' ≤ char && char ≤ '9' then some (char.toNat - '0'.toNat) else none

/-- The value of a run of decimal digits read after the digits worth `value`. -/
def digitsAfter? (value : Nat) : Text → Option Nat
  | [] => some value
  | char :: rest => (digit? char).bind fun digit => digitsAfter? (10 * value + digit) rest

/-- The value of a non-empty run of decimal digits. -/
def natural? : Text → Option Nat
  | [] => none
  | digits => digitsAfter? 0 digits

/-- The number of values of a word of 64 bits, `2 ^ 64`. -/
def wordCount : Nat := 0x10000000000000000

/-- The number of integers of 64 bits below zero, `2 ^ 63`. -/
def negativeCount : Int := 0x8000000000000000

/-- A natural number with an optional plus sign, below `2 ^ 64`. -/
def word? (text : Text) : Option Nat :=
  let digits := match text with
    | '+' :: digits => digits
    | digits => digits
  (natural? digits).filter (· < wordCount)

/-- An integer that fits in 64 bits. -/
def fits (value : Int) : Bool :=
  -negativeCount ≤ value && value < negativeCount

/-- The nearest integer that fits in 64 bits. -/
def saturate (value : Int) : Int :=
  max (-negativeCount) (min value (negativeCount - 1))

/-- An integer with an optional sign, when it fits in 64 bits. -/
def integer? (text : Text) : Option Int64 :=
  let value := match text with
    | '-' :: digits => (natural? digits).map fun size => -(Int.ofNat size)
    | '+' :: digits => (natural? digits).map Int.ofNat
    | digits => (natural? digits).map Int.ofNat
  -- The size is read without a limit, so the lowest of all values can be read too.
  (value.filter fits).map Int64.ofInt

/-- The decimal digits of a natural number, without leading zeros. -/
def ofNat (value : Nat) : Text :=
  Nat.toDigits 10 value

/-- The decimal form of an integer, with a minus sign below zero. -/
def ofInt (value : Int) : Text :=
  if value < 0 then '-' :: ofNat value.natAbs else ofNat value.natAbs

/-- The decimal form of a value of 64 bits. -/
def ofInt64 (value : Int64) : Text :=
  ofInt value.toInt

/-- Zeros in front of a text that is shorter than `width`. -/
def padZeros (width : Nat) (text : Text) : Text :=
  List.replicate (width - text.length) '0' ++ text

end Docket.Text
