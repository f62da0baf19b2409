import Docket.Shell.Awk.Value
import Docket.Shell.Printing

/-! Texts from formats and values. -/

namespace Docket.Shell.Awk

/-- Why a format cannot be followed. -/
inductive FormatFault where
  | tooFew
  | improper (index : Nat)

/-- A number as a directive shows it in decimals. -/
def formatFloat (directive : Printing.Directive) (value : Float) : Text :=
  if isUsual value then Printing.formatFloat directive value
  else Printing.pad directive false (unusual value)

/-- The number that a directive for whole numbers shows. -/
def wholeFor (conversion : Char) (value : Float) : Int :=
  let found := whole value
  let limit := Text.negativeCount
  if found < -(limit - 1) then -(limit - 1)
  else if conversion = 'd' || conversion = 'i' then min found (Text.wordCount - 1)
  else min found (Text.wordCount - 1)

/-- A value as a number is turned into text: whole numbers have all their digits. -/
def textOfNumber (format : Text) (value : Float) : Text :=
  match asWord? value with
  | some word => Text.ofInt word
  | none =>
    if format = "%.6g".toList then
      formatFloat ⟨[], 0, some 6, 'g'⟩ value
    else
      let rest := format.dropWhile (· != '%')
      let flags := (rest.drop 1).takeWhile fun char => "#-+ 0".toList.elem char
      let rest := rest.drop (1 + flags.length)
      let width := rest.takeWhile Char.isDigit
      let rest := rest.drop width.length
      let (places, rest) := match rest with
        | '.' :: rest =>
          let digits := rest.takeWhile Char.isDigit
          (some ((Text.natural? digits).getD 0), rest.drop digits.length)
        | rest => (none, rest)
      let conversion := rest.head?.getD 'g'
      let directive : Printing.Directive :=
        ⟨flags, (Text.natural? width).getD 0, places, conversion⟩
      let shown := if conversion = 'd' then
          Printing.formatNumber directive (wholeFor 'd' value)
        else formatFloat directive value
      format.takeWhile (· != '%') ++ shown ++ rest.drop 1

/-- The text of a value. -/
def Value.toText (format : Text) : Value → Text
  | .unset => []
  | .number value => textOfNumber format value
  | .text found => found
  | .numeral found _ => found

/-- The character that a value stands for. -/
def charOf : Value → Text
  | .number value | .numeral _ value => [Char.ofNat (whole value % 256).toNat]
  | .unset => ['\x00']
  | .text text => [text.head?.getD '\x00']

/-- What a directive makes of a value. -/
def directed? (conversions : Text) (directive : Printing.Directive) (value : Value) :
    Option Text :=
  match directive.conversion with
  | 'd' | 'i' =>
    let found := wholeFor 'd' value.toNumber
    if isUsual value.toNumber then some (Printing.formatNumber directive found)
    else some (Printing.pad directive false (unusual value.toNumber))
  | 'o' | 'x' | 'X' | 'u' => some (Printing.formatNumber directive (wholeFor 'u' value.toNumber))
  | 'e' | 'f' | 'g' | 'E' | 'F' | 'G' => some (formatFloat directive value.toNumber)
  | 'c' => some (Printing.pad directive false (charOf value))
  | 's' =>
    let text := value.toText conversions
    some (Printing.pad directive false (directive.places.elim text text.take))
  | _ => none

/-- A size in a directive: digits, or a star for the next value. -/
def sizeOf (text : Text) (values : List Value) :
    Except FormatFault (Option Int × Text × List Value) :=
  match text, values with
  | '*' :: rest, value :: values => .ok (some (whole value.toNumber), rest, values)
  | '*' :: _, [] => .error .tooFew
  | text, values =>
    let digits := text.takeWhile Char.isDigit
    .ok ((Text.natural? digits).map Int.ofNat, text.drop digits.length, values)

/-- The text of a format and values, up to the first fault. `conversions` is the format of numbers
as texts, and each character costs one of `fuel`. -/
def formatted (conversions : Text) (fuel index : Nat) (format : Text) (values : List Value) :
    Text × Option FormatFault :=
  match fuel, format with
  | fuel + 1, '%' :: '%' :: rest =>
    let (text, fault) := formatted conversions fuel index rest values
    ('%' :: text, fault)
  | fuel + 1, '%' :: rest =>
    if values.isEmpty then ([], some .tooFew)
    else
      let flags := rest.takeWhile fun char => "#-+ 0".toList.elem char
      match sizeOf (rest.drop flags.length) values with
      | .error fault => ([], some fault)
      | .ok (width, rest, values) =>
        let sized : Except FormatFault (Option Int × Text × List Value) := match rest with
          | '.' :: rest =>
            (sizeOf rest values).map fun (places, after) => (some (places.getD 0), after)
          | rest => .ok (none, rest, values)
        match sized with
        | .error fault => ([], some fault)
        | .ok (places, rest, values) =>
          let rest := rest.dropWhile fun char => char == 'h' || char == 'l' || char == 'q'
          let width := width.getD 0
          let flags := if width < 0 then '-' :: flags else flags
          let places := places.bind fun count => if count < 0 then none else some count.toNat
          let directive : Printing.Directive :=
            ⟨flags, width.natAbs, places, rest.head?.getD ' '⟩
          match values with
          | [] => ([], some .tooFew)
          | value :: values =>
            match directed? conversions directive value with
            | none => ([], some (.improper index))
            | some shown =>
              let (text, fault) :=
                formatted conversions fuel (index + 1) (rest.drop 1) values
              (shown ++ text, fault)
  | fuel + 1, char :: rest =>
    let (text, fault) := formatted conversions fuel index rest values
    (char :: text, fault)
  | _, _ => ([], none)

end Docket.Shell.Awk
