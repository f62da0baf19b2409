import Docket.Text.Integer

/-! Quotients rounded to whole numbers, and in decimal notations: with fixed places, with an
exponent, or with as many digits as count. -/

namespace Docket.Number

/-- The whole number nearest to a quotient; a tie goes to the even neighbour. -/
def roundedQuotient (dividend divisor : Nat) : Nat :=
  let floor := dividend / divisor
  let excess := 2 * (dividend % divisor)
  if excess < divisor || (excess == divisor && floor % 2 == 0) then floor else floor + 1

/-- A quotient with a fixed number of places after the point. -/
def fixedPlaces (places dividend divisor : Nat) : Text :=
  let scale := Nat.pow 10 places
  let scaled := roundedQuotient (dividend * scale) divisor
  Text.ofNat (scaled / scale) ++
    '.' :: Text.padZeros places (Text.ofNat (scaled % scale))

/-- The exponent of the leading decimal digit of a positive quotient. -/
def leadingExponent (dividend divisor : Nat) : Int :=
  if divisor ≤ dividend then
    Int.ofNat (Nat.toDigits 10 (dividend / divisor)).length - 1
  else
    let length := (Nat.toDigits 10 (divisor / dividend)).length
    if divisor ≤ dividend * Nat.pow 10 (length - 1) then 1 - Int.ofNat length
    else -Int.ofNat length

/-- A quotient in units of a power of ten, rounded. -/
def roundedAt (exponent : Int) (dividend divisor : Nat) : Nat :=
  if 0 ≤ exponent then roundedQuotient dividend (divisor * Nat.pow 10 exponent.toNat)
  else roundedQuotient (dividend * Nat.pow 10 (-exponent).toNat) divisor

/-- The digits of a quotient rounded to so many behind the leading one, and the exponent of that. -/
def leadingDigits (places dividend divisor : Nat) : Text × Int :=
  if dividend = 0 then (List.replicate (places + 1) '0', 0)
  else
    let exponent := leadingExponent dividend divisor
    let digits := Nat.toDigits 10 (roundedAt (exponent - places) dividend divisor)
    if places + 1 < digits.length then (digits.take (places + 1), exponent + 1)
    else (digits, exponent)

/-- An exponent behind its mark, with at least two digits. -/
def exponentText (exponent : Int) : Text :=
  (if exponent < 0 then '-' else '+') ::
    Text.padZeros 2 (Text.ofNat exponent.natAbs)

/-- A quotient with one digit before the point, so many behind it, and an exponent. -/
def scientific (places dividend divisor : Nat) : Text :=
  let (digits, exponent) := leadingDigits places dividend divisor
  let fraction := if places = 0 then [] else '.' :: digits.drop 1
  digits.take 1 ++ fraction ++ 'e' :: exponentText exponent

/-- A quotient with so many places; without places there is no point. -/
def positional (places dividend divisor : Nat) : Text :=
  let text := fixedPlaces places dividend divisor
  if places = 0 then text.takeWhile (· != '.') else text

/-- Digits without zeros behind the point. -/
def withoutZeros (digits : Text) : Text :=
  if List.elem '.' digits then
    let kept := (digits.reverse.dropWhile (· == '0')).reverse
    if kept.getLast? = some '.' then kept.dropLast else kept
  else digits

/-- A quotient with so many leading digits, in the shorter one of both notations; zeros at the end
count only on demand. -/
def general (digits : Nat) (keepsZeros : Bool) (dividend divisor : Nat) : Text :=
  let digits := max 1 digits
  let exponent := (leadingDigits (digits - 1) dividend divisor).2
  if exponent < -4 || (digits : Int) ≤ exponent then
    let text := scientific (digits - 1) dividend divisor
    if keepsZeros then text
    else withoutZeros (text.takeWhile (· != 'e')) ++ text.dropWhile (· != 'e')
  else
    let text := positional (digits - 1 - exponent).toNat dividend divisor
    if keepsZeros then text else withoutZeros text

end Docket.Number
