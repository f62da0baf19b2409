import Docket.Text.Basic

/-! Texts as bytes in UTF-8. -/

namespace Docket.Text

/-- The bytes of a text. -/
def utf8 (text : Text) : List UInt8 :=
  text.flatMap String.utf8EncodeChar

/-- Bytes after the first one of a character. -/
def isTail (byte : UInt8) : Bool :=
  0x80 ≤ byte && byte ≤ 0xBF

/-- The value of the six low bits of a byte. -/
def tailBits (byte : UInt8) : Nat :=
  byte.toNat % 0x40

/-- How many bytes follow a first byte, and between which bounds the first of them lies. -/
def lead? (byte : UInt8) : Option (Nat × UInt8 × UInt8) :=
  -- Narrower bounds keep out characters written too long, surrogates, and what lies above the last
  -- code point.
  if 0xC2 ≤ byte && byte ≤ 0xDF then some (1, 0x80, 0xBF)
  else if byte == 0xE0 then some (2, 0xA0, 0xBF)
  else if byte == 0xED then some (2, 0x80, 0x9F)
  else if 0xE1 ≤ byte && byte ≤ 0xEF then some (2, 0x80, 0xBF)
  else if byte == 0xF0 then some (3, 0x90, 0xBF)
  else if 0xF1 ≤ byte && byte ≤ 0xF3 then some (3, 0x80, 0xBF)
  else if byte == 0xF4 then some (3, 0x80, 0x8F)
  else none

/-- The bits of a first byte that `count` bytes follow. -/
def leadBits (byte : UInt8) (count : Nat) : Nat :=
  byte.toNat % Nat.pow 2 (6 - count)

/-- The character after a first byte that has the value `value`, where `count` bytes are missing
and the next one lies between two bounds. Gives the character, if it is complete, and how many
bytes belong to it. -/
def tailChar (value taken : Nat) (low high : UInt8) : Nat → List UInt8 → Option Char × Nat
  | 0, _ => (some (Char.ofNat value), taken)
  | _ + 1, [] => (none, taken)
  | count + 1, byte :: rest =>
    if low ≤ byte && byte ≤ high then
      tailChar (value * 0x40 + tailBits byte) (taken + 1) 0x80 0xBF count rest
    -- The byte that does not fit is not taken, and may begin a character itself.
    else (none, taken)

/-- The character at the front of bytes, if they begin with one, and how many bytes belong to it
or to the attempt at it. -/
def frontChar (first : UInt8) (rest : List UInt8) : Option Char × Nat :=
  if first ≤ 0x7F then (some (Char.ofNat first.toNat), 1)
  else match lead? first with
    | none => (none, 1)
    | some (count, low, high) => tailChar (leadBits first count) 1 low high count rest

/-- The characters of bytes, with `none` for each attempt that failed. `skipped` bytes at the front
belong to what has been read. -/
def readUtf8 (skipped : Nat) : List UInt8 → List (Option Char)
  | [] => []
  | first :: rest =>
    match skipped with
    | skipped + 1 => readUtf8 skipped rest
    | 0 =>
      let (char, taken) := frontChar first rest
      char :: readUtf8 (taken - 1) rest

/-- The text that bytes are the UTF-8 form of, if there is one. -/
def ofUtf8? (bytes : List UInt8) : Option Text :=
  (readUtf8 0 bytes).mapM id

/-- The text of bytes, with a replacement character for what is no UTF-8. -/
def ofUtf8Lossy (bytes : List UInt8) : Text :=
  (readUtf8 0 bytes).map (·.getD '\ufffd')

end Docket.Text
