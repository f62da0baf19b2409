import Docket.Json.Value
import Docket.Text.Integer

/-! Reading JSON texts. -/

namespace Docket.Json

/-- White space between JSON tokens. -/
def isSpace (char : Char) : Bool :=
  char == ' ' || char == '\n' || char == '\t' || char == '\r'

/-- A text without the white space at its front. -/
def skipSpace (text : Text) : Text :=
  text.dropWhile isSpace

/-- The value of a hexadecimal digit. -/
def hexDigit? (char : Char) : Option Nat :=
  if '0' ≤ char && char ≤ '9' then some (char.toNat - '0'.toNat)
  else if 'a' ≤ char && char ≤ 'f' then some (char.toNat - 'a'.toNat + 10)
  else if 'A' ≤ char && char ≤ 'F' then some (char.toNat - 'A'.toNat + 10)
  else none

/-- The value of four hexadecimal digits. -/
def unit? (a b c d : Char) : Option Nat := do
  return ((← hexDigit? a) * 16 + (← hexDigit? b)) * 256 + (← hexDigit? c) * 16 + (← hexDigit? d)

/-- The character that a one-letter escape stands for. -/
def escaped? (char : Char) : Option Char :=
  match char with
  | '"' => some '"'
  | '\\' => some '\\'
  | '/' => some '/'
  | 'b' => some '\x08'
  | 'f' => some '\x0c'
  | 'n' => some '\n'
  | 'r' => some '\r'
  | 't' => some '\t'
  | _ => none

/-- Units that open a surrogate pair. -/
def isHigh (unit : Nat) : Bool :=
  0xD800 ≤ unit && unit < 0xDC00

/-- Units that close a surrogate pair. -/
def isLow (unit : Nat) : Bool :=
  0xDC00 ≤ unit && unit < 0xE000

/-- A string is written with characters and with escaped units of sixteen bits. -/
inductive Mark where
  | char (char : Char)
  | unit (unit : Nat)
deriving DecidableEq

/-- The marks of a string up to its closing quote, and what follows it. -/
def marks? : Text → Option (List Mark × Text)
  | [] => none
  | '"' :: rest => some ([], rest)
  -- Units are paired afterwards, when the whole string is known.
  | '\\' :: 'u' :: a :: b :: c :: d :: rest =>
    match unit? a b c d with
    | none => none
    | some unit => (marks? rest).map fun (marks, after) => (.unit unit :: marks, after)
  | '\\' :: char :: rest =>
    match escaped? char with
    | none => none
    | some char => (marks? rest).map fun (marks, after) => (.char char :: marks, after)
  | char :: rest =>
    if char.toNat < 0x20 || char == '\\' then none
    else (marks? rest).map fun (marks, after) => (.char char :: marks, after)

/-- The text that marks stand for, if every surrogate is paired with its neighbour. -/
def ofMarks? : List Mark → Option Text
  | [] => some []
  | .char char :: rest => (ofMarks? rest).map (char :: ·)
  | .unit high :: .unit low :: rest =>
    if isHigh high then
      if isLow low then
        let code := 0x10000 + (high - 0xD800) * 0x400 + (low - 0xDC00)
        (ofMarks? rest).map (Char.ofNat code :: ·)
      else none
    -- A unit that closes a pair cannot come first; any other is a character by itself.
    else if isLow high then none
    else (ofMarks? (.unit low :: rest)).map (Char.ofNat high :: ·)
  | .unit unit :: rest =>
    if isHigh unit || isLow unit then none
    else (ofMarks? rest).map (Char.ofNat unit :: ·)

/-- The content of a string up to its closing quote, and what follows it. The content is missing
when a surrogate is unpaired. -/
def stringTail? (text : Text) : Option (Option Text × Text) :=
  (marks? text).map fun (marks, after) => (ofMarks? marks, after)

/-- A non-empty run of digits, and what follows it. -/
def digits? (text : Text) : Option (Text × Text) :=
  match text.takeWhile Char.isDigit with
  | [] => none
  | digits => some (digits, text.dropWhile Char.isDigit)

/-- Skips a fraction, if there is one; tells whether there was. -/
def fraction? : Text → Option (Bool × Text)
  | '.' :: rest => (digits? rest).map fun (_, after) => (true, after)
  | text => some (false, text)

/-- Skips an exponent, if there is one; tells whether there was. -/
def exponent? : Text → Option (Bool × Text)
  | mark :: rest =>
    if mark == 'e' || mark == 'E' then
      let digits := match rest with
        | '+' :: digits => digits
        | '-' :: digits => digits
        | digits => digits
      (digits? digits).map fun (_, after) => (true, after)
    else some (false, mark :: rest)
  | [] => some (false, [])

/-- A number without its sign: its whole part, whether it is only that, and what follows. -/
def unsigned? (text : Text) : Option (Nat × Bool × Text) := do
  let (digits, rest) ← match text with
    -- A zero in front is the whole part, so no digit may follow it.
    | '0' :: rest => if (rest.head?.any Char.isDigit) then none else some (['0'], rest)
    | text => digits? text
  let (fractional, rest) ← fraction? rest
  let (scaled, rest) ← exponent? rest
  let whole ← Text.natural? digits
  return (whole, !fractional && !scaled, rest)

/-- A number, and what follows it. Minus zero is no integer. -/
def number? (text : Text) : Option (Json × Text) :=
  match text with
  | '-' :: digits =>
    (unsigned? digits).map fun (whole, plain, rest) =>
      (if plain && whole != 0 then integer (-whole) else decimal, rest)
  | digits =>
    (unsigned? digits).map fun (whole, plain, rest) =>
      (if plain then integer whole else decimal, rest)

/-- What follows a given word, if the text begins with it. -/
def word (expected : String) (value : Json) (text : Text) : Option (Json × Text) :=
  if Text.startsWith text expected.toList then some (value, text.drop expected.length) else none

/-- An object whose names are all texts; with another name it can only be skipped. -/
def ofMembers (members : List (Option Text × Json)) : Json :=
  match members.mapM fun (name, value) => name.map fun name => (name, value) with
  | some members => object members
  | none => garbled

mutual

/-- A value at the front of a text, and what follows it. Each nested value costs one of `fuel`. -/
def value? (fuel : Nat) (text : Text) : Option (Json × Text) :=
  match fuel with
  | 0 => none
  | fuel + 1 =>
    match skipSpace text with
    | '"' :: rest =>
      (stringTail? rest).map fun (content, after) => ((content.map string).getD garbled, after)
    | '[' :: rest =>
      match skipSpace rest with
      | ']' :: after => some (array [], after)
      | _ => (items? fuel rest).map fun (items, after) => (array items, after)
    | '{' :: rest =>
      match skipSpace rest with
      | '}' :: after => some (object [], after)
      | _ => (memberList? fuel rest).map fun (members, after) => (ofMembers members, after)
    | 't' :: rest => word "rue" (bool true) rest
    | 'f' :: rest => word "alse" (bool false) rest
    | 'n' :: rest => word "ull" null rest
    | rest => number? rest

/-- The items of an array up to its closing bracket, and what follows it. -/
def items? (fuel : Nat) (text : Text) : Option (List Json × Text) :=
  match fuel with
  | 0 => none
  | fuel + 1 =>
    match value? fuel text with
    | none => none
    | some (item, rest) =>
      match skipSpace rest with
      | ',' :: more => (items? fuel more).map fun (items, after) => (item :: items, after)
      | ']' :: after => some ([item], after)
      | _ => none

/-- The members of an object up to its closing brace, and what follows it. -/
def memberList? (fuel : Nat) (text : Text) : Option (List (Option Text × Json) × Text) :=
  match fuel with
  | 0 => none
  | fuel + 1 =>
    match skipSpace text with
    | '"' :: named =>
      match stringTail? named with
      | none => none
      | some (name, rest) =>
        match skipSpace rest with
        | ':' :: rest =>
          match value? fuel rest with
          | none => none
          | some (value, rest) =>
            match skipSpace rest with
            | ',' :: more =>
              (memberList? fuel more).map fun (members, after) => ((name, value) :: members, after)
            | '}' :: after => some ([(name, value)], after)
            | _ => none
        | _ => none
    | _ => none

end

/-- The value of a JSON text. Every nested value takes a character, so the length is fuel enough. -/
def read? (text : Text) : Option Json :=
  (value? (2 * text.length + 1) text).bind fun (value, rest) =>
    -- Nothing but white space may follow the value.
    if (skipSpace rest).isEmpty then some value else none

end Docket.Json
