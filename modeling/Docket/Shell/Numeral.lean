import Docket.Text.Integer

/-! Numbers at the fronts of texts, as floating point numbers. -/

namespace Docket.Shell.Numeral

/-- The digits of a number at the front of a text. -/
def digitsOf (text : Text) : Text :=
  let whole := text.takeWhile Char.isDigit
  let rest := text.drop whole.length
  let fraction := match rest with
    | '.' :: rest => '.' :: rest.takeWhile Char.isDigit
    | _ => []
  let rest := rest.drop fraction.length
  let exponent := match rest with
    | mark :: next :: rest =>
      if mark = 'e' || mark = 'E' then
        let plus := if next = '+' || next = '-' then [next] else []
        let digits := (if plus.isEmpty then next :: rest else rest).takeWhile Char.isDigit
        if digits.isEmpty then [] else mark :: plus ++ digits
      else []
    | _ => []
  whole ++ fraction ++ exponent

/-- The number of a text of digits. -/
def value (text : Text) : Float :=
  let mantissa := text.takeWhile fun char => char != 'e' && char != 'E'
  let digits := mantissa.filter Char.isDigit
  let places := ((mantissa.dropWhile (· != '.')).drop 1).length
  let exponent : Int := match text.drop (mantissa.length + 1) with
    | '-' :: size => -Int.ofNat ((Text.natural? size).getD 0)
    | '+' :: size => (Text.natural? size).getD 0
    | size => ((Text.natural? size).getD 0 : Nat)
  let scale := exponent - places
  let size := (Text.natural? digits).getD 0
  if size = 0 then 0
  else if 0 ≤ scale then Float.ofScientific size false (min scale.toNat 1000)
  else Float.ofScientific size true (min scale.natAbs 5000)

/-- Whether a character stands in front of numbers. -/
def isGap (char : Char) : Bool :=
  char == ' ' || '\t' ≤ char && char ≤ '\r'

/-- The number of hexadecimal digits. -/
def ofHex (digits : Text) : Float :=
  Float.ofNat (digits.foldl (fun value digit =>
    value * 16 + "0123456789abcdef".toList.idxOf digit.toLower) 0)

/-- The number at the front of a text, and what follows it. -/
def leading (text : Text) : Float × Text :=
  let trimmed := text.dropWhile isGap
  let (negative, size) := match trimmed with
    | '-' :: rest => (true, rest)
    | '+' :: rest => (false, rest)
    | rest => (false, rest)
  let signed (size : Float) : Float := if negative then -size else size
  let lower := Text.asciiLower (size.take 8)
  let hex := (size.drop 2).takeWhile fun char => "0123456789abcdefABCDEF".toList.elem char
  let digits := digitsOf size
  if Text.startsWith lower "0x".toList && !hex.isEmpty then
    (signed (ofHex hex), size.drop (hex.length + 2))
  else if digits.any Char.isDigit then (signed (value digits), size.drop digits.length)
  else if Text.startsWith lower "infinity".toList then (signed (1 / 0), size.drop 8)
  else if Text.startsWith lower "inf".toList then (signed (1 / 0), size.drop 3)
  else if Text.startsWith lower "nan".toList then (0 / 0, size.drop 3)
  else (0, text)

end Docket.Shell.Numeral
