import Docket.Number.Binary64
import Docket.Number.Notation
import Docket.Shell.Numeral
import Docket.Shell.Sum

/-! Printing: escapes in texts, and texts made from a format and arguments. -/

namespace Docket.Shell.Printing

/-- The characters of letters after a backslash. -/
def letters : List (Char × Char) :=
  [('\\', '\\'), ('a', '\x07'), ('b', '\x08'), ('e', '\x1b'), ('f', '\x0c'), ('n', '\n'),
    ('r', '\r'), ('t', '\t'), ('v', '\x0b')]

/-- The character of octal digits, as a byte. -/
def octal (digits : Text) : Char :=
  Char.ofNat (((Sum.digits? 8 digits).getD 0) % 256)

/-- The octal digits at the front of a text, at most `most`. -/
def octalDigits (most : Nat) (text : Text) : Text :=
  (text.take most).takeWhile fun char => '0' ≤ char && char ≤ '7'

/-- The character of what follows a backslash in a format, and what comes after it. A backslash
that stands for nothing stays. -/
def escape (text : Text) : Char × Text :=
  let digits := octalDigits 3 text
  if !digits.isEmpty then (octal digits, text.drop digits.length)
  else match text with
    | letter :: rest =>
      match letters.lookup letter with
      | some char => (char, rest)
      | none => ('\\', text)
    | [] => ('\\', [])

/-- A text without its escapes, and whether an escape ends all printing. Here octal digits may
follow a zero. Each character costs one of `fuel`. -/
def unescape (fuel : Nat) (text : Text) : Text × Bool :=
  match fuel, text with
  | fuel + 1, '\\' :: rest =>
    let adding (char : Char) (rest : Text) : Text × Bool :=
      let (others, ended) := unescape fuel rest
      (char :: others, ended)
    match rest with
    | 'c' :: _ => ([], true)
    | '0' :: rest =>
      let digits := octalDigits 3 rest
      adding (octal digits) (rest.drop digits.length)
    | rest =>
      let (char, after) := escape rest
      adding char after
  | fuel + 1, char :: rest =>
    let (others, ended) := unescape fuel rest
    (char :: others, ended)
  | _, _ => ([], false)

/-- The line that words are echoed as; `-n` in front leaves out its end. -/
def echo (words : List Text) : Text :=
  let (bare, words) := match words with
    | ['-', 'n'] :: rest => (true, rest)
    | words => (false, words)
  let joined := Text.join [' '] words
  let (shown, ended) := unescape (joined.length + 1) joined
  if bare || ended then shown else shown ++ ['\n']

/-- A directive of a format. -/
structure Directive where
  flags : Text
  width : Nat
  places : Option Nat
  conversion : Char

/-- What printing has come to. -/
structure Printed where
  output : Text := []
  complaints : List Text := []
  arguments : List Text
  ended : Bool := false
  /-- Whether the format itself is no format. -/
  broken : Bool := false

/-- Whether a directive has a flag. -/
def Directive.has (directive : Directive) (flag : Char) : Bool :=
  List.elem flag directive.flags

/-- What stands in front of the zeros of a number: its sign and the mark of its base. -/
def leadOf (text : Text) : Nat :=
  match text with
  | '0' :: 'x' :: _ => 2
  | '0' :: 'X' :: _ => 2
  | sign :: _ => if "+- ".toList.elem sign then 1 else 0
  | [] => 0

/-- Fills a text up to the width of a directive. -/
def pad (directive : Directive) (zeros : Bool) (text : Text) : Text :=
  let missing := directive.width - text.length
  if directive.has '-' then text ++ List.replicate missing ' '
  else if zeros then
    text.take (leadOf text) ++ List.replicate missing '0' ++ text.drop (leadOf text)
  else List.replicate missing ' ' ++ text

/-- The sign of a number for a directive. -/
def Directive.sign (directive : Directive) (negative : Bool) : Text :=
  if negative then ['-']
  else if directive.has '+' then ['+']
  else if directive.has ' ' then [' '] else []

/-- A text in the case of a directive. -/
def Directive.cased (directive : Directive) (text : Text) : Text :=
  if directive.conversion.isUpper then text.map Char.toUpper else text

/-- A quotient in the notation of a directive. -/
def Directive.decimal (directive : Directive) (dividend divisor : Nat) : Text :=
  let places := directive.places.getD 6
  let text := match directive.conversion.toLower with
    | 'f' => Number.positional places dividend divisor
    | 'e' => Number.scientific places dividend divisor
    | _ => Number.general places (directive.has '#') dividend divisor
  let mantissa := text.takeWhile (· != 'e')
  let point := if directive.has '#' && !List.elem '.' mantissa then ['.'] else []
  directive.cased (mantissa ++ point ++ text.drop mantissa.length)

/-- A floating point number for a directive. -/
def formatFloat (directive : Directive) (value : Float) : Text :=
  match Binary64.ofFloat value with
  | .finite units =>
    let size := directive.decimal units.natAbs Binary64.unitsInOne
    pad directive (directive.has '0')
      (directive.sign (value.toBits.toNat >>> 63 = 1) ++ size)
  | .infinite negative =>
    pad directive false (directive.sign negative ++ directive.cased "inf".toList)
  | .nan => pad directive false (directive.sign false ++ directive.cased "nan".toList)

/-- The number at the front of an argument, and a complaint about what follows it. It has to fit
into a word with or without sign. -/
def numberOf (isSigned : Bool) (argument : Text) : Int × List Text :=
  match argument with
  | [] => (0, [])
  | ['"'] => (0, [])
  | '"' :: char :: _ => (char.toNat, [])
  | '\'' :: char :: _ => (char.toNat, [])
  | argument =>
    let trimmed := argument.dropWhile fun char => char == ' ' || char == '\t'
    let (negative, size) := match trimmed with
      | '-' :: rest => (true, rest)
      | '+' :: rest => (false, rest)
      | rest => (false, rest)
    let isHex := Text.startsWith size "0x".toList || Text.startsWith size "0X".toList
    let base := if isHex then 16 else if size.head? == some '0' then 8 else 10
    let digits := (if isHex then size.drop 2 else size).takeWhile fun char =>
      (Sum.digit? base char).isSome
    let found : Int := ((Sum.digits? base digits).getD 0 : Nat)
    let value := if negative then -found else found
    let most : Int := if isSigned then Text.negativeCount - 1 else Text.wordCount - 1
    let least : Int := if isSigned then -Text.negativeCount else -(Text.wordCount - 1)
    let isLarge := most < value || value < least
    let taken := digits.length + if isHex then 2 else 0
    let complaint :=
      if digits.isEmpty then [argument ++ ": expected numeric value".toList]
      else if taken < size.length then [argument ++ ": not completely converted".toList]
      else if isLarge then [argument ++ ": Numerical result out of range".toList]
      else []
    (if isLarge then if negative && isSigned then least else most else value, complaint)

/-- A number without sign, as a machine word holds it. -/
def asWord (value : Int) : Nat :=
  (value % Int.ofNat Text.wordCount).toNat

/-- The form of a number for a directive. -/
def formatNumber (directive : Directive) (value : Int) : Text :=
  let signed := directive.conversion = 'd' || directive.conversion = 'i'
  let base := match directive.conversion with
    | 'x' => 16
    | 'X' => 16
    | 'o' => 8
    | _ => 10
  let size := if signed then value.natAbs else asWord value
  let digits := if size = 0 && directive.places = some 0 then [] else Nat.toDigits base size
  let digits := directive.cased (Text.padZeros (directive.places.getD 0) digits)
  let mark := if !directive.has '#' then []
    else match directive.conversion with
      | 'x' => if size = 0 then [] else "0x".toList
      | 'X' => if size = 0 then [] else "0X".toList
      | 'o' => if digits.head? = some '0' then [] else ['0']
      | _ => []
  let sign := if signed then directive.sign (value < 0) else []
  pad directive (directive.has '0' && directive.places.isNone) (sign ++ mark ++ digits)

/-- The form of a decimal number for a directive, and a complaint if it is none. -/
def formatDecimal (directive : Directive) (argument : Text) : Text × List Text :=
  match argument with
  | '"' :: char :: _ | '\'' :: char :: _ =>
    (formatFloat directive (Float.ofNat char.toNat), [])
  | argument =>
    let (value, rest) := Numeral.leading argument
    let complaint :=
      if argument.isEmpty || rest.isEmpty then []
      else if rest.length = argument.length then
        [argument ++ ": expected numeric value".toList]
      else [argument ++ ": not completely converted".toList]
    (formatFloat directive value, complaint)

/-- Carries out a directive. -/
def apply (directive : Directive) (printed : Printed) : Printed :=
  let argument := printed.arguments.head?.getD []
  let taken := { printed with arguments := printed.arguments.drop 1 }
  let adding (text : Text) (complaints : List Text) : Printed :=
    { taken with
      output := taken.output ++ text, complaints := taken.complaints ++ complaints }
  let cut (text : Text) : Text := match directive.places with
    | some places => text.take places
    | none => text
  if directive.conversion = 's' then adding (pad directive false (cut argument)) []
  else if directive.conversion = 'c' then
    adding (pad directive false (if argument.isEmpty then ['\x00'] else argument.take 1)) []
  else if directive.conversion = 'b' then
    let (text, ended) := unescape (argument.length + 1) argument
    { adding (pad directive false (cut text)) [] with ended }
  else if "diouxX".toList.elem directive.conversion then
    let isSigned := directive.conversion = 'd' || directive.conversion = 'i'
    let (value, complaints) := numberOf isSigned argument
    adding (formatNumber directive value) complaints
  else if "fFeEgG".toList.elem directive.conversion then
    let (text, complaints) := formatDecimal directive argument
    adding text complaints
  else { printed with broken := true }

/-- A size in a directive: digits, or a star for the next argument. -/
def size (text : Text) (printed : Printed) : Option Int × Text × Printed :=
  match text with
  | '*' :: rest =>
    let (value, complaints) := numberOf true (printed.arguments.head?.getD [])
    (some value, rest, { printed with
      arguments := printed.arguments.drop 1, complaints := printed.complaints ++ complaints })
  | text =>
    let digits := text.takeWhile Char.isDigit
    ((Text.natural? digits).map Int.ofNat, text.drop digits.length, printed)

/-- Follows a format once. Each character costs one of `fuel`. -/
def follow (fuel : Nat) (format : Text) (printed : Printed) : Printed :=
  match fuel with
  | 0 => printed
  | fuel + 1 =>
    if printed.ended || printed.broken then printed
    else match format with
      | [] => printed
      | '\\' :: rest =>
        let (char, after) := escape rest
        follow fuel after { printed with output := printed.output ++ [char] }
      | '%' :: '%' :: rest => follow fuel rest { printed with output := printed.output ++ ['%'] }
      | '%' :: rest =>
        let flags := rest.takeWhile fun char => "#-+ 0".toList.elem char
        let (width, after, sized) := size (rest.drop flags.length) printed
        let (places, after, sized) := match after with
          | '.' :: after =>
            let (places, after, sized) := size after sized
            (some (places.getD 0), after, sized)
          | after => (none, after, sized)
        let width := width.getD 0
        let flags := if width < 0 then '-' :: flags else flags
        let places := places.bind fun count => if count < 0 then none else some count.toNat
        let conversion := after.head?.getD ' '
        let done := apply ⟨flags, width.natAbs, places, conversion⟩ sized
        if after.isEmpty then
          { sized with broken := true, complaints := ["missing format character".toList] }
        else if done.broken then
          let shown := '%' :: rest.take (rest.length - after.length + 1)
          { done with complaints := done.complaints ++ [shown ++ ": invalid directive".toList] }
        else follow fuel (after.drop 1) done
      | char :: rest => follow fuel rest { printed with output := printed.output ++ [char] }

/-- Follows a format again as long as it uses arguments and there are some. -/
def print (fuel : Nat) (format : Text) (printed : Printed) : Printed :=
  match fuel with
  | 0 => printed
  | fuel + 1 =>
    let next := follow (format.length + 1) format printed
    if next.ended || next.broken || next.arguments.isEmpty ||
        next.arguments.length = printed.arguments.length then next
    else print fuel format next

end Docket.Shell.Printing
